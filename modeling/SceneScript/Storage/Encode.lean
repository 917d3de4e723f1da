import SceneScript.Storage.Avif
import SceneScript.Storage.Bitmap
import SceneScript.Storage.Dds
import SceneScript.Storage.Document
import SceneScript.Storage.Eps
import SceneScript.Storage.Format
import SceneScript.Storage.Gif
import SceneScript.Storage.Icon
import SceneScript.Storage.Jpeg.Encode
import SceneScript.Storage.LabImage
import SceneScript.Storage.Pcx
import SceneScript.Storage.Pixmap
import SceneScript.Storage.Qoi
import SceneScript.Storage.Sgi
import SceneScript.Storage.Targa
import SceneScript.Storage.Tiff
import SceneScript.Storage.Webp

/-!
# Image files

The bytes of a picture in each format that is written (`Coder.encode`), the pictures that a format
refuses (`Coder.check`), what is left in a file that is given up (`Coder.left`), and the picture
that is read of a file (`Coder.readBack`).

A picture without pixels is refused where the pixels would be written, so most formats have written
their head by then. Numbers that do not fit their fields are found in front of that. Of formats
whose compression is not one of this library's, `Coder.encode` gives what a file begins with, and
of a document what its time has no part in.
-/

namespace SceneScript.Coder

/-- Whether a picture has pixels. -/
def checkPixels (p : Picture) : Except Fault Unit :=
  if p.width = 0 ∨ p.height = 0 then .error .emptyPicture else .ok ()

/-- Whether a picture can be written into the file at a path. -/
def check (c : Coder) (path : String) (p : Picture) : Except Fault Unit := do
  match c with
  | .gif => Gif.check [⟨p, 0⟩]
  | .tga =>
    checkField p.width
    checkField p.height
    checkPixels p
  | .pcx => Pcx.check p
  | .sgi => Sgi.check p
  | .qoi => if p.width = 0 ∨ p.height = 0 then throw .sizeNotPositive
  | .im =>
    LabImage.check path
    checkPixels p
  | .jpeg | .pdf => Jpeg.check p
  | .webp => Webp.check p
  | .avif => Avif.check p
  | .ico => Icon.check p
  | .icns => pure ()
  | .png | .ppm | .bmp | .dib | .jpeg2000 | .tiff | .eps | .dds => checkPixels p

/-- What stands in a file that could not be written for the given reason. -/
def left (c : Coder) (path : String) (p : Picture) (why : Fault) : ByteArray :=
  match c, why with
  | .png, .emptyPicture => Png.head p
  | .ppm, .emptyPicture => Pixmap.head p
  | .bmp, .emptyPicture => Bitmap.head p
  | .dib, .emptyPicture => Bitmap.innerHead p
  | .tga, .emptyPicture => Targa.head p
  | .tiff, .emptyPicture => Tiff.head p
  | .eps, .emptyPicture => Eps.head p
  | .sgi, .emptyPicture => Sgi.head p
  | .dds, .emptyPicture => Dds.head p
  | .im, .emptyPicture => LabImage.head path p
  | .im, .unencodable .. => LabImage.firstLine.toUTF8
  | .qoi, .sizeNotPositive => Qoi.head p
  | .ico, why => Icon.left p why
  | _, _ => .empty

/-- A picture in bytes, for the file at a path. -/
def encode (c : Coder) (path : String) (p : Picture) : ByteArray :=
  match c with
  | .png => Png.encode p
  | .ppm => Pixmap.encode p
  | .bmp => Bitmap.encode p
  | .dib => Bitmap.encodeInner p
  | .tga => Targa.encode p
  | .gif => Gif.encode [⟨p, 0⟩]
  | .tiff => Tiff.encode p
  | .pcx => Pcx.encode p
  | .eps => Eps.encode p
  | .sgi => Sgi.encode p
  | .im => LabImage.encode path p
  | .dds => Dds.encode p
  | .qoi => Qoi.encode p
  | .ico => Icon.encodeFavourite p
  | .icns => Icon.encodeDesktop p
  | .jpeg => Jpeg.encode p
  | .jpeg2000 =>
    Bytes.ofList (if Path.extension path = ".j2k" then Jpeg2000.streamMark else Jpeg2000.boxMark)
  | .webp => Webp.head p
  | .avif => Avif.head
  | .pdf => Document.encode p

/-- What is read of a picture that has been written. -/
def readBack (c : Coder) (p : Picture) : Reading :=
  match c with
  | .eps => .error .needsProgram
  | .pdf => .ok none
  | .ico => .ok (Icon.pictures p).getLast?
  | .icns => .ok (some (Icon.square p 1024))
  | .jpeg => (Jpeg.faded p).checked
  | .webp => (Webp.faded p).checked
  | .pcx => Pcx.decode (Pcx.encode p)
  | _ => if p.width = 0 ∨ p.height = 0 then .ok none else p.checked

end SceneScript.Coder
