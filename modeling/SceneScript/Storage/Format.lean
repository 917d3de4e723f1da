import SceneScript.Fault

/-!
# Image formats

A format is chosen by the extension of a file. Most formats that have an extension can be written;
the rest are listed with the reason why they cannot (`Support`).
-/

namespace SceneScript

/-- The ways in which pictures are put into files. -/
inductive Coder
  | png | ppm | bmp | dib | tga | gif | jpeg | jpeg2000 | tiff | webp | avif | ico | icns | pcx
  | eps | sgi | im | dds | qoi | pdf
  deriving Repr, DecidableEq, Inhabited

/-- What can be done with pictures in a format. -/
inductive Support
  /-- They are written. -/
  | written (coder : Coder)
  /-- They are only read. -/
  | read
  /-- They are taken and refused. -/
  | refused (why : Fault)
  deriving Inhabited

/-- A format of image files. -/
structure ImageFormat where
  name : String
  extensions : List String
  support : Support
  deriving Inhabited

namespace ImageFormat

/-- The formats that are written. -/
def written : List ImageFormat := [
  ⟨"PNG", [".png", ".apng"], .written .png⟩,
  ⟨"PPM", [".ppm", ".pgm", ".pbm", ".pnm", ".pfm"], .written .ppm⟩,
  ⟨"BMP", [".bmp"], .written .bmp⟩,
  ⟨"DIB", [".dib"], .written .dib⟩,
  ⟨"TGA", [".tga", ".icb", ".vda", ".vst"], .written .tga⟩,
  ⟨"GIF", [".gif"], .written .gif⟩,
  ⟨"JPEG", [".jfif", ".jpe", ".jpg", ".jpeg"], .written .jpeg⟩,
  ⟨"MPO", [".mpo"], .written .jpeg⟩,
  ⟨"JPEG2000", [".jp2", ".j2k", ".jpc", ".jpf", ".jpx", ".j2c"], .written .jpeg2000⟩,
  ⟨"TIFF", [".tif", ".tiff"], .written .tiff⟩,
  ⟨"WEBP", [".webp"], .written .webp⟩,
  ⟨"AVIF", [".avif", ".avifs"], .written .avif⟩,
  ⟨"ICO", [".ico"], .written .ico⟩,
  ⟨"ICNS", [".icns"], .written .icns⟩,
  ⟨"PCX", [".pcx"], .written .pcx⟩,
  ⟨"EPS", [".ps", ".eps"], .written .eps⟩,
  ⟨"SGI", [".bw", ".rgb", ".rgba", ".sgi"], .written .sgi⟩,
  ⟨"IM", [".im"], .written .im⟩,
  ⟨"DDS", [".dds"], .written .dds⟩,
  ⟨"QOI", [".qoi"], .written .qoi⟩,
  ⟨"PDF", [".pdf"], .written .pdf⟩]

/-- The formats that are only read. -/
def readOnly : List ImageFormat := [
  ⟨"CUR", [".cur"], .read⟩,
  ⟨"DCX", [".dcx"], .read⟩,
  ⟨"FITS", [".fit", ".fits"], .read⟩,
  ⟨"FLI", [".fli", ".flc"], .read⟩,
  ⟨"FTEX", [".ftc", ".ftu"], .read⟩,
  ⟨"GBR", [".gbr"], .read⟩,
  ⟨"IPTC", [".iim"], .read⟩,
  ⟨"MPEG", [".mpg", ".mpeg"], .read⟩,
  ⟨"PCD", [".pcd"], .read⟩,
  ⟨"PIXAR", [".pxr"], .read⟩,
  ⟨"PSD", [".psd"], .read⟩,
  ⟨"SUN", [".ras"], .read⟩,
  ⟨"XPM", [".xpm"], .read⟩]

/-- The formats that have no pictures of three bytes to a pixel, and those that are written by
another program. -/
def refused : List ImageFormat := [
  ⟨"XBM", [".xbm"], .refused (.wrongMode "XBM")⟩,
  ⟨"MSP", [".msp"], .refused (.wrongMode "MSP")⟩,
  ⟨"PALM", [".palm"], .refused (.wrongMode "Palm")⟩,
  ⟨"BLP", [".blp"], .refused (.unsupportedMode "BLP")⟩,
  ⟨"BUFR", [".bufr"], .refused (.noHandler "BUFR")⟩,
  ⟨"GRIB", [".grib"], .refused (.noHandler "GRIB")⟩,
  ⟨"HDF5", [".h5", ".hdf"], .refused (.noHandler "HDF5")⟩,
  ⟨"WMF", [".wmf", ".emf"], .refused (.noHandler "WMF")⟩]

/-- The formats that have an extension. -/
def all : List ImageFormat := written ++ readOnly ++ refused

/-- The format that an extension in lower case stands for. -/
def ofExtension? (extension : String) : Option ImageFormat :=
  all.find? (·.extensions.contains extension)

end ImageFormat

end SceneScript
