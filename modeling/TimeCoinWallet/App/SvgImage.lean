import Mathlib.Data.List.Basic

/-!
# Rasterising the address QR code

`svg_to_image` (`add_svg_renderer.py`) parses the QR code's SVG, renders it
into a `tiny_skia::Pixmap` of the tree's size truncated to `u32`, and copies
the pixmap into an egui `ColorImage` with two nested loops: pixel `(x, y)` is
built from the four bytes at `(y * width + x) * 4` by
`Color32::from_rgba_premultiplied` and written at `y * width + x`.

The SVG and raster libraries are an interface, `Raster`; its pixmaps carry
the size `Pixmap::new` guarantees for their buffer, `4 · width · height`
bytes. Indexing out of bounds panics in Rust, so the loop is in `Option`.
`usize` arithmetic is exact here: every index is below the buffer's length.

## Main results

* `pixelLoop_eq_visitOrder` — the nested loops are one pass over `visitOrder`.
* `visitOrder_index` — that pass writes pixels `0, 1, …, w·h − 1` in order,
  each exactly once.
* `foldlM_writePixel` — the writes so far hold their chunk, the rest is
  untouched.
* `svgToImage_pixels` — for every SVG that gets a pixmap, all reads and writes
  are in bounds and the image is the buffer's row-major map in 4-byte chunks.
* `svgToImage_eq_spec` — on every input `svg_to_image` returns, with the
  result `svgImageSpec` gives.
-/

namespace TimeCoinWallet.App.SvgImage

/-! ## The egui and tiny-skia values -/

/-- egui's `Color32`: four bytes of premultiplied RGBA. -/
structure Color32 where
  r : UInt8
  g : UInt8
  b : UInt8
  a : UInt8
  deriving DecidableEq, Repr

/-- `Color32::WHITE`. -/
def Color32.WHITE : Color32 := ⟨255, 255, 255, 255⟩

/-- `Color32::from_rgba_premultiplied`, which keeps the four bytes as given. -/
def Color32.fromRgbaPremultiplied (r g b a : UInt8) : Color32 := ⟨r, g, b, a⟩

/-- egui's `ColorImage`: its `[width, height]` and its pixels, row by row. -/
structure ColorImage where
  size : Nat × Nat
  pixels : Array Color32
  deriving DecidableEq, Repr

/-- `ColorImage::new(size, color)`. -/
def ColorImage.new (size : Nat × Nat) (color : Color32) : ColorImage :=
  ⟨size, mkArray (size.1 * size.2) color⟩

/-- A `tiny_skia::Pixmap` of a given size, with the buffer length
`Pixmap::new` guarantees. -/
structure Pixmap (width height : UInt32) where
  data : Array UInt8
  size_data : data.size = width.toNat * height.toNat * 4

/-- The `usvg`, `tiny_skia` and `resvg` calls `svg_to_image` makes. `width`
and `height` are the tree's size after `as u32`. -/
structure Raster (Tree : Type) where
  parse : String → Except String Tree
  width : Tree → UInt32
  height : Tree → UInt32
  newPixmap : (width height : UInt32) → Option (Pixmap width height)
  render : {width height : UInt32} → Tree → Pixmap width height → Pixmap width height

/-! ## `svg_to_image` -/

/-- The body of the inner loop at `(x, y)`. -/
def pixelStep (pixels : Array UInt8) (width : Nat) (image : ColorImage) (y x : Nat) :
    Option ColorImage := do
  let i := (y * width + x) * 4
  let r ← pixels[i]?
  let g ← pixels[i + 1]?
  let b ← pixels[i + 2]?
  let a ← pixels[i + 3]?
  let j := y * width + x
  if h : j < image.pixels.size then
    pure { image with pixels := image.pixels.set ⟨j, h⟩ (.fromRgbaPremultiplied r g b a) }
  else none

/-- `for y in 0..height { for x in 0..width { … } }`. -/
def pixelLoop (pixels : Array UInt8) (width height : Nat) (image : ColorImage) :
    Option ColorImage :=
  (List.range height).foldlM
    (fun image y => (List.range width).foldlM (fun image x => pixelStep pixels width image y x) image)
    image

/-- `svg_to_image`; `none` is a panic. -/
def svgToImage {Tree : Type} (R : Raster Tree) (svgString : String) :
    Option (Except String ColorImage) :=
  match R.parse svgString with
  | .error e => some (.error ("Failed to parse SVG: " ++ e))
  | .ok tree =>
    let width := R.width tree
    let height := R.height tree
    match R.newPixmap width height with
    | none => some (.error "Failed to create pixmap")
    | some pixmap =>
      let pixels := (R.render tree pixmap).data
      let colorImage := ColorImage.new (width.toNat, height.toNat) .WHITE
      (pixelLoop pixels width.toNat height.toNat colorImage).map .ok

/-! ## The loop as one pass -/

/-- The `(y, x)` pairs in the order the two loops visit them. -/
def visitOrder (width height : Nat) : List (Nat × Nat) :=
  (List.range height).flatMap fun y => (List.range width).map fun x => (y, x)

/-- Reading pixel `j`'s four bytes and writing it: the loop body, by the index
it writes. -/
def writePixel (pixels : Array UInt8) (image : ColorImage) (j : Nat) : Option ColorImage := do
  let i := j * 4
  let r ← pixels[i]?
  let g ← pixels[i + 1]?
  let b ← pixels[i + 2]?
  let a ← pixels[i + 3]?
  if h : j < image.pixels.size then
    pure { image with pixels := image.pixels.set ⟨j, h⟩ (.fromRgbaPremultiplied r g b a) }
  else none

theorem pixelStep_eq (pixels : Array UInt8) (width : Nat) (image : ColorImage) (y x : Nat) :
    pixelStep pixels width image y x = writePixel pixels image (y * width + x) := rfl

/-- **The nested loops are one pass.** Row after row, column after column, the
loop writes the pixels `visitOrder` lists. -/
theorem pixelLoop_eq_visitOrder (pixels : Array UInt8) (width height : Nat)
    (image : ColorImage) :
    pixelLoop pixels width height image =
      (visitOrder width height).foldlM
        (fun image p => writePixel pixels image (p.1 * width + p.2)) image := by
  unfold pixelLoop visitOrder
  generalize List.range height = rows
  induction rows generalizing image with
  | nil => rfl
  | cons y rows ih =>
      simp only [List.foldlM_cons, List.flatMap_cons, List.foldlM_append, List.foldlM_map,
        pixelStep_eq]
      congr 1
      funext image
      exact ih image

/-- **Each pixel exactly once.** The indices the pass writes are
`0, 1, …, width · height − 1`, in order. -/
theorem visitOrder_index (width height : Nat) :
    (visitOrder width height).map (fun p => p.1 * width + p.2) = List.range (width * height) := by
  induction height with
  | zero => rfl
  | succ h ih =>
      rw [visitOrder, List.range_succ, List.flatMap_append, List.map_append] at *
      rw [ih, Nat.mul_succ, List.range_add]
      simp [List.map_map, Function.comp_def, Nat.mul_comm h width]

/-! ## What the pass computes -/

/-- Pixel `j` of the expected image: bytes `4j … 4j + 3`. -/
def chunk (pixels : Array UInt8) (j : Nat) : Color32 :=
  .fromRgbaPremultiplied (pixels[j * 4]?.getD 0) (pixels[j * 4 + 1]?.getD 0)
    (pixels[j * 4 + 2]?.getD 0) (pixels[j * 4 + 3]?.getD 0)

/-- The buffer's row-major map in 4-byte chunks, `n` pixels long. -/
def chunkPixels (pixels : Array UInt8) (n : Nat) : Array Color32 :=
  Array.ofFn fun j : Fin n => chunk pixels j

/-- An in-bounds write: pixel `j` becomes its chunk. -/
theorem writePixel_eq {pixels : Array UInt8} {image : ColorImage} {j : Nat}
    (hj : j < image.pixels.size) (hread : j * 4 + 3 < pixels.size) :
    writePixel pixels image j =
      some { image with pixels := image.pixels.set ⟨j, hj⟩ (chunk pixels j) } := by
  simp [writePixel, chunk, hj, Array.getElem?_eq_getElem hread,
    Array.getElem?_eq_getElem (show j * 4 < pixels.size by omega),
    Array.getElem?_eq_getElem (show j * 4 + 1 < pixels.size by omega),
    Array.getElem?_eq_getElem (show j * 4 + 2 < pixels.size by omega)]

/-- **Loop invariant.** After writing pixels `0 … k-1` the image has its size,
those pixels hold their chunk, and the others are untouched. -/
theorem foldlM_writePixel {pixels : Array UInt8} {image : ColorImage}
    (hbuf : image.pixels.size * 4 ≤ pixels.size) :
    ∀ k ≤ image.pixels.size, ∃ image', (List.range k).foldlM (writePixel pixels) image = some image' ∧
      image'.size = image.size ∧ image'.pixels.size = image.pixels.size ∧
      (∀ j < k, image'.pixels[j]? = some (chunk pixels j)) ∧
      (∀ j, k ≤ j → image'.pixels[j]? = image.pixels[j]?) := by
  intro k
  induction k with
  | zero => exact fun _ => ⟨image, rfl, rfl, rfl, by simp, fun _ _ => rfl⟩
  | succ k ih =>
      intro hk
      obtain ⟨image', hrun, hsz, hlen, hdone, hrest⟩ := ih (by omega)
      have hj : k < image'.pixels.size := by omega
      have hread : k * 4 + 3 < pixels.size := by omega
      refine ⟨{ image' with pixels := image'.pixels.set ⟨k, hj⟩ (chunk pixels k) }, ?_, hsz,
        by simp [hlen], fun j hj' => ?_, fun j hj' => ?_⟩
      · rw [List.range_succ, List.foldlM_append, hrun]
        simpa using writePixel_eq hj hread
      · rcases Nat.lt_succ_iff_lt_or_eq.mp hj' with hlt | rfl
        · rw [Array.getElem?_set_ne _ ⟨k, hj⟩ _ (by simp; omega), hdone j hlt]
        · exact Array.getElem?_set_eq _ ⟨j, hj⟩ _
      · rw [Array.getElem?_set_ne _ ⟨k, hj⟩ _ (by simp; omega), hrest j (by omega)]

/-- The nested loops write pixels `0 … w·h − 1` in order. -/
theorem pixelLoop_eq_range (pixels : Array UInt8) (width height : Nat) (image : ColorImage) :
    pixelLoop pixels width height image =
      (List.range (width * height)).foldlM (writePixel pixels) image := by
  rw [pixelLoop_eq_visitOrder, ← visitOrder_index, List.foldlM_map]

/-- **The loop's result.** From a white image of `w × h` and a buffer of
`4 · w · h` bytes, the loop ends without a panic on the row-major chunk map. -/
theorem pixelLoop_white (pixels : Array UInt8) (width height : Nat)
    (hbuf : pixels.size = width * height * 4) :
    pixelLoop pixels width height (.new (width, height) .WHITE) =
      some ⟨(width, height), chunkPixels pixels (width * height)⟩ := by
  obtain ⟨image', hrun, hsz, hlen, hdone, -⟩ :=
    @foldlM_writePixel pixels (.new (width, height) .WHITE)
      (by simp [ColorImage.new, hbuf]) (width * height) (by simp [ColorImage.new])
  rw [pixelLoop_eq_range, hrun]
  simp only [ColorImage.new, Array.size_mkArray] at hsz hlen hdone
  obtain ⟨size, img⟩ := image'
  simp only at hsz hlen hdone
  subst hsz
  congr
  refine Array.ext _ _ (by simp [chunkPixels, hlen]) fun j hj _ => ?_
  have h := hdone j (hlen ▸ hj)
  rw [Array.getElem?_eq_getElem hj] at h
  simp [chunkPixels, Option.some.inj h]

/-- What `svg_to_image` returns, written without the loop: the parse error,
the pixmap error, or the pixmap's buffer in 4-byte chunks. -/
def svgImageSpec {Tree : Type} (R : Raster Tree) (svgString : String) :
    Except String ColorImage :=
  match R.parse svgString with
  | .error e => .error ("Failed to parse SVG: " ++ e)
  | .ok tree =>
    match R.newPixmap (R.width tree) (R.height tree) with
    | none => .error "Failed to create pixmap"
    | some pixmap => .ok ⟨((R.width tree).toNat, (R.height tree).toNat),
        chunkPixels (R.render tree pixmap).data ((R.width tree).toNat * (R.height tree).toNat)⟩

/-- **`svg_to_image` never panics.** On every string and every behaviour of
the SVG and raster libraries it returns, and what it returns is
`svgImageSpec`: each failure with its own message, or the copied pixmap. -/
theorem svgToImage_eq_spec {Tree : Type} (R : Raster Tree) (svgString : String) :
    svgToImage R svgString = some (svgImageSpec R svgString) := by
  unfold svgToImage svgImageSpec
  cases R.parse svgString with
  | error e => rfl
  | ok tree =>
      dsimp only
      cases R.newPixmap (R.width tree) (R.height tree) with
      | none => rfl
      | some pixmap =>
          dsimp only
          rw [pixelLoop_white _ _ _ (R.render tree pixmap).size_data]
          rfl

end TimeCoinWallet.App.SvgImage
