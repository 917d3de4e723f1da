import SceneScript.Storage.Avif
import SceneScript.Storage.Blp
import SceneScript.Storage.Dds
import SceneScript.Storage.Eps
import SceneScript.Storage.Fits
import SceneScript.Storage.Fli
import SceneScript.Storage.Ftex
import SceneScript.Storage.Gbr
import SceneScript.Storage.Gif.Decode
import SceneScript.Storage.Icon.Decode
import SceneScript.Storage.Imt
import SceneScript.Storage.Jpeg.Decode
import SceneScript.Storage.LabImage
import SceneScript.Storage.Mcidas
import SceneScript.Storage.Msp
import SceneScript.Storage.Pcx
import SceneScript.Storage.Pixar
import SceneScript.Storage.Pixmap
import SceneScript.Storage.Press
import SceneScript.Storage.Psd
import SceneScript.Storage.Qoi
import SceneScript.Storage.Sgi
import SceneScript.Storage.SourcePixmap
import SceneScript.Storage.Spider
import SceneScript.Storage.Stub
import SceneScript.Storage.Sun
import SceneScript.Storage.Targa
import SceneScript.Storage.Thumbnail
import SceneScript.Storage.Tiff.Decode
import SceneScript.Storage.Webp
import SceneScript.Storage.Xbm

/-!
# Reading image files

Which picture is in bytes. Their format is told by the bytes alone, and the first reader that
recognises them decides.
-/

namespace SceneScript

/-- The readers, in the order in which they are asked. -/
def readers : List (ByteArray → Reading) :=
  [Bitmap.decode, Bitmap.decodeInner, Gif.decode, Jpeg.decode, Pixmap.decode, Png.decode,
    Avif.decode, Blp.decode, Stub.weatherTable, Icon.decodeCursor, Pcx.decode, Pcx.decodeFirst,
    Dds.decode, Eps.decode, Fits.decode, Fli.decode, Ftex.decode, Gbr.decode, Stub.weatherGrid,
    Stub.hierarchy, Jpeg2000.decode, Icon.decodeDesktop, Icon.decode, LabImage.decode, Imt.decode,
    Press.decode, Mcidas.decode, Stub.film, Tiff.decode, Msp.decode, Stub.disc, Pixar.decode,
    Psd.decode, Qoi.decode, Sgi.decode, Spider.decode, Sun.decode, Targa.decode, Webp.decode,
    Stub.metafile, Xbm.decode, SourcePixmap.decode, Thumbnail.decode]

/-- The picture in bytes: the answer of the first reader that has one. -/
def readPicture (data : ByteArray) : Reading :=
  readers.foldlM (fun found reader =>
    match found with
    | some p => pure (some p)
    | none => reader data) none

end SceneScript
