import SceneScript.Decimal.Memory
import SceneScript.Machine
import SceneScript.Script.FrameCount
import SceneScript.Script.Keyword

/-!
# Faults

Whatever can stop a script from being compiled, rendered or stored. A fault is its cause; its
wording is `Fault.message`, and `Fault.kind` is the family a caller tells faults apart by.
-/

namespace SceneScript

/-- What is wrong with a line of a script. -/
inductive LineFault
  | unknownCommand (word : String)
  | notNumbers (command : Keyword) (expected : Nat) (found : List String)
  | notInteger (command : Keyword) (found : String)
  | argumentsFound (command : Keyword)
  | rotateShape
  | notAxis (found : String)
  | notOneFile
  | notOneInteger
  | notOneName
  | varyShape
  | setShape
  deriving Repr, DecidableEq, Inhabited

/-- What the file system refuses. -/
inductive FileFault
  | missing
  | alreadyThere
  | notDirectory
  | isDirectory
  | nameTooLong
  /-- The place may not be read, or not be written. -/
  | denied
  /-- The disk is full. -/
  | noSpace
  deriving Repr, DecidableEq, Inhabited

/-- What is wrong with bytes that should be text. -/
inductive ByteFault
  | badStart
  | badContinuation
  | cutShort
  deriving Repr, DecidableEq, Inhabited

/-- What is wrong with an image file that has been recognised as one. -/
inductive ImageFault
  /-- The data ends too early, with so many bytes that do not make up a whole. -/
  | cutShort (left : Nat)
  /-- The data ends too early, in front of anything that could follow. -/
  | ended
  /-- The data ends before the head does. -/
  | readTooLittle
  /-- The data makes up too few pixels. -/
  | tooLittle
  /-- The data contradicts itself. -/
  | broken
  /-- The data has something unknown in it. -/
  | unrecognised
  /-- A run in the data is longer than its row. -/
  | overrun
  /-- The data is to be read in a way that makes no sense. -/
  | misconfigured
  /-- The data refers to something in front of it. -/
  | outsideFile
  /-- What the head describes cannot be read. -/
  | notReadable
  /-- The pixels are not held in a way that their kind can be. -/
  | unknownLayout
  /-- The kind of the pixels is one that has no palette. -/
  | unknownMode
  /-- The palette has more than 256 entries. -/
  | badPalette
  /-- The pixels lie outside the picture. -/
  | outsidePicture
  /-- The picture has no pixels to be filled. -/
  | noPixels
  /-- A byte that is needed is missing. -/
  | missingByte
  /-- Of two bytes that are needed, only so many are there. -/
  | missingPair (found : Nat)
  /-- A chunk of a graphic is too short. -/
  | shortChunk (name : String)
  /-- The same, of a chunk of an animated graphic. -/
  | shortFrameChunk (name : String)
  /-- The chunks of an animated graphic are not in order. -/
  | frameSequence
  /-- A frame of an animated graphic lies outside of it. -/
  | frameOutside
  /-- The rows of a graphic are filtered in an unknown way. -/
  | unknownFilter
  /-- A chunk of a graphic is compressed in an unknown way. -/
  | unknownMethod (method : Nat) (name : String)
  /-- A text in a graphic is too long. -/
  | textTooLong
  /-- The name of a chunk is none. -/
  | badChunk (name : String)
  /-- A bitmap of a kind that is not read. -/
  | unsupportedBitmap (what : String) (n : Nat)
  /-- The parts of the pixels of a bitmap are no bytes. -/
  | badLayout
  /-- The head of a pixmap ends too early. -/
  | headEnded
  /-- A word in the head of a pixmap is too long. -/
  | headWordTooLong (word : List UInt8)
  /-- A word of a pixmap is no number. -/
  | notNumber (word : List UInt8)
  /-- A word of a pixmap is no number with a fraction. -/
  | notFraction (word : List UInt8)
  /-- The greatest value of a pixmap does not fit two bytes. -/
  | badGreatest
  /-- The scale of a pixmap is zero or not finite. -/
  | badScale
  /-- A word of a pixmap is too long. -/
  | wordTooLong (word : List UInt8)
  /-- A word of a bit map is no bit. -/
  | notBit (word : UInt8)
  /-- A value of a pixmap is negative. -/
  | negativeValue (value : Int)
  /-- A value of a pixmap is above the greatest one. -/
  | valueTooLarge (value : Int)
  /-- There are more pixels than a picture may have. -/
  | tooManyPixels (count limit : Nat)
  /-- The pixels take more bytes than there are. -/
  | bufferTooSmall
  /-- Of four bytes that are needed, only so many are there. -/
  | missingParts (found : Nat)
  /-- An exchange image whose pixels are held in an unknown way. -/
  | unknownExchange
  /-- A workstation image whose pixels are held in an unknown way. -/
  | unsupportedWorkstation
  /-- A surface whose head has a wrong size. -/
  | surfaceHead (size : Nat)
  /-- A surface whose head ends too early. -/
  | surfaceHeadCut (size : Nat)
  /-- A surface of greys of so many bits. -/
  | surfaceDepth (bits flags : Nat)
  /-- A surface whose pixels have an unknown name. -/
  | unknownPixelFormat (code : Nat)
  /-- A surface whose pixels have an unknown number. -/
  | unknownSurfaceFormat (number : Nat)
  /-- A surface that says nothing known of its pixels. -/
  | surfaceFlags (flags : Nat)
  /-- A painting that ends before its table does. -/
  | paintingTableCut
  /-- A painting that ends in a row of the given length. -/
  | paintingRowCut (length row : Nat)
  /-- A painting with a run that is not whole. -/
  | paintingRowBroken (row : Nat)
  /-- A layered document with too few parts. -/
  | tooFewChannels
  /-- A sky image that ends in its head. -/
  | skyEnded
  /-- A sky image without an image. -/
  | skyEmpty
  /-- A text that is no number with a fraction. -/
  | notFractionText (text : List UInt8)
  /-- A texture that is packed in an unknown way. -/
  | unknownTexture (number : Int)
  /-- The same, with what is unknown of it. -/
  | unknownPacking (what : String) (number : Int)
  /-- The photograph that a texture is held as is none. -/
  | noPhotograph
  /-- A page description that does not say how large it is. -/
  | noBoundingBox
  /-- A pixmap in source text that cannot be read. -/
  | badSourcePixmap
  /-- A pixel in source text that has no colour. -/
  | noSuchColour
  /-- The same, of many colours. -/
  | noSuchKey (key : List UInt8)
  /-- A field of a press image whose length is none. -/
  | badFieldLength
  /-- A field of a press image that is none. -/
  | badField
  /-- The same, of one that ends in its length. -/
  | fieldCut
  /-- A press image that is packed in an unknown way. -/
  | unknownPress
  /-- A picture of an icon in an unknown format. -/
  | unknownIconPicture
  /-- A picture of an icon in a size that it does not have. -/
  | noSuchIconSize
  /-- A part of a picture of an icon that does not fill it, or more than fills it. -/
  | iconPartLeft (count : Int)
  /-- A picture of an icon that does not begin as it should. -/
  | iconMark
  /-- A picture of an icon that has opacities and no colours. -/
  | noIconColours
  /-- A still of a film that ends too early. -/
  | stillEnded
  /-- A packed tagged image that cannot be unpacked. -/
  | cannotUnpack (code : Int)
  /-- A size that makes no sense. -/
  | badSize
  /-- A tile whose size makes no sense. -/
  | badTileSize
  /-- A picture of the network that cannot be taken apart. -/
  | noDecoder
  /-- The same, of one whose pixels cannot be read. -/
  | noNextFrame
  /-- A metafile without a unit. -/
  | badUnit
  /-- The format is left to a program that is not there. -/
  | noLoader (format : String)
  /-- The format is drawn by another program, which is not there. -/
  | needsProgram
  deriving Repr, DecidableEq, Inhabited

/-- The cause of a failure. -/
inductive Fault
  | badLine (line : Nat) (why : LineFault)
  | varyWithoutFrames
  | badFrameCount (count : FrameCount)
  | rampBeforeStart (knob : String) (start : Int)
  | rampReversed (knob : String) (start stop : Int)
  | rampPastEnd (knob : String) (stop last : Int)
  | cannotSave (target : String) (why : Fault)
  | noMatchingPush
  | undefinedKnob (name : String)
  | undefinedColour
  /-- A coordinate that is to be that of a cell and is undefined. -/
  | undefinedCell
  /-- The same, of one that is infinite. -/
  | infiniteCell
  /-- An integer in a text with more digits than the machine writes. -/
  | tooManyDigits (most : Nat)
  /-- A part of a colour that must be a byte. -/
  | partNotByte (part : Int)
  /-- A part of a colour that must be a byte and is not even a word. -/
  | partNotWord
  | angleNotFinite
  | noSuchAxis (code : Int)
  | negativeSize
  /-- A row or column count that is no word. -/
  | sizeNotWord
  /-- Rows and columns whose bytes are more than a word can count. -/
  | sizeTooLarge
  /-- Rows and columns for which there is no room. -/
  | noRoom (shape : List Nat) (itemSize : Nat) (item : String)
  /-- A count of samples that is too large for a word. -/
  | countTooLarge
  | negativeSamples (count : Int)
  | noFrames
  /-- An animation that has no directory. -/
  | noDirectory
  | unknownFormat (extension : String)
  /-- A format that files are only read in. -/
  | readOnlyFormat (format : String)
  /-- A format that has no pictures of three bytes to a pixel. -/
  | wrongMode (format : String)
  /-- The same, of a format that says no more. -/
  | unsupportedMode (format : String)
  /-- A format that is written by another program, which is not there. -/
  | noHandler (format : String)
  /-- A picture without pixels. -/
  | emptyPicture
  /-- The same, of an exchange image. -/
  | emptyExchange
  /-- The same, of a still of a film. -/
  | noCanvas
  /-- The same, of a quite fine image. -/
  | sizeNotPositive
  /-- The same, of a picture of the network. -/
  | noPictureRoom
  | nothingToShow
  /-- A number that does not fit its field in a file. -/
  | fieldTooLarge
  /-- A negative number in a field of a file that has no sign. -/
  | fieldNegative
  /-- A side that does not fit its field of two bytes. -/
  | sideNotWord
  | quotientTooLarge
  /-- A picture that is too large for its format. -/
  | brokenStream
  /-- The same, of a still of a film. -/
  | encoderRefused
  /-- A picture that is larger than an icon and fills none. -/
  | noIconSize
  /-- The same, of a format that says how large a picture may be. -/
  | pastLimit (format : String) (limit : Nat)
  | nulInPath
  | undecodable (first : UInt8) (start stop : Nat) (why : ByteFault)
  /-- Characters that a head cannot hold, the first of them, and their place. -/
  | unencodable (first : Char) (start stop : Nat)
  | noSuchFrame
  | frameNotWord
  | outOfBounds (index : Int) (axis : Nat) (size : Nat)
  | indexNotWord
  | zeroToNegativePower
  | powerTooLarge
  | integerTooLarge
  | unwritable (path : String)
  | notAnImage (path : String)
  | badImage (why : ImageFault)
  | file (why : FileFault) (path : String)
  /-- The same, of a file that is open. -/
  | openFile (why : FileFault)
  deriving Repr, Inhabited

/-- The families of faults. -/
inductive Fault.Kind
  | syntaxFault
  | configuration
  | operand
  | underflow
  | knob
  | value
  | index
  | zeroDivision
  | overflow
  | undecodable
  | unencodable
  | format
  | argument
  | memory
  | pictureMemory
  | field
  | encoder
  | oversized
  | illFormed
  | notProvided
  | texture
  | unidentified
  | system
  | missing
  | alreadyThere
  | isDirectory
  | notDirectory
  | denied
  deriving Repr, DecidableEq, Inhabited

namespace Fault

namespace Kind

/-- The family of what is wrong with an image file. -/
def ofImage : ImageFault → Kind
  | .cutShort _ | .ended | .readTooLittle | .broken | .unrecognised | .overrun | .misconfigured
  | .outsideFile | .notReadable | .unsupportedBitmap .. | .badLayout | .unknownExchange
  | .surfaceHead _ | .surfaceHeadCut _ | .surfaceDepth .. | .paintingTableCut | .paintingRowCut ..
  | .paintingRowBroken _ | .tooFewChannels | .skyEnded | .noBoundingBox
  | .badFieldLength | .unknownPress | .cannotUnpack _ | .noDecoder | .noNextFrame | .noLoader _
  | .needsProgram => .system
  | .tooLittle | .unknownLayout | .unknownMode | .badPalette | .outsidePicture | .noPixels
  | .missingPair _ | .shortChunk _ | .shortFrameChunk _ | .textTooLong | .headEnded
  | .headWordTooLong _ | .notNumber _ | .notFraction _ | .badGreatest | .badScale
  | .wordTooLong _ | .notBit _ | .negativeValue _ | .valueTooLarge _ | .bufferTooSmall
  | .missingParts _ | .unsupportedWorkstation | .skyEmpty | .notFractionText _ | .unknownTexture _
  | .badSourcePixmap | .noSuchColour | .unknownIconPicture | .noSuchIconSize | .badSize
  | .badTileSize | .badUnit => .value
  | .noSuchKey _ | .noIconColours => .format
  | .unknownPixelFormat _ | .unknownSurfaceFormat _ | .surfaceFlags _ => .notProvided
  | .frameSequence | .frameOutside | .unknownFilter | .unknownMethod .. | .badChunk _
  | .iconPartLeft _ | .iconMark | .stillEnded | .noPhotograph | .badField => .illFormed
  | .unknownPacking .. => .texture
  | .fieldCut => .field
  | .missingByte => .index
  | .tooManyPixels .. => .oversized

/-- The family of a refusal of the file system. -/
def ofFile : FileFault → Kind
  | .missing => .missing
  | .alreadyThere => .alreadyThere
  | .notDirectory => .notDirectory
  | .isDirectory => .isDirectory
  | .denied => .denied
  | .nameTooLong | .noSpace => .system

end Kind

/-- The family of a fault. -/
def kind : Fault → Kind
  | badLine .. => .syntaxFault
  | varyWithoutFrames => .configuration
  | badFrameCount _ | rampBeforeStart .. | rampReversed .. | rampPastEnd .. | cannotSave .. =>
    .operand
  | noMatchingPush => .underflow
  | undefinedKnob _ => .knob
  | undefinedColour | undefinedCell | tooManyDigits _ | angleNotFinite | noSuchAxis _
  | negativeSize | sizeNotWord | sizeTooLarge | countTooLarge | negativeSamples _ | noFrames
  | unknownFormat _ | unsupportedMode _ | emptyPicture | emptyExchange | noCanvas | sizeNotPositive
  | noIconSize | nothingToShow | pastLimit .. | nulInPath => .value
  | undecodable .. => .undecodable
  | unencodable .. => .unencodable
  | noSuchFrame | frameNotWord | outOfBounds .. | indexNotWord => .index
  | zeroToNegativePower => .zeroDivision
  | infiniteCell | powerTooLarge | integerTooLarge | partNotByte _ | partNotWord | fieldTooLarge
  | fieldNegative | quotientTooLarge => .overflow
  | readOnlyFormat _ => .format
  | noDirectory => .argument
  | noRoom .. => .memory
  | noPictureRoom => .pictureMemory
  | sideNotWord => .field
  | encoderRefused => .encoder
  | unwritable _ | wrongMode _ | noHandler _ | brokenStream => .system
  | notAnImage _ => .unidentified
  | badImage why => .ofImage why
  | file why _ | openFile why => .ofFile why

/-- Whether a fault is one of the script's: its text, its directives, its operations or its knobs.
-/
def isScriptFault (f : Fault) : Bool :=
  match f.kind with
  | .syntaxFault | .configuration | .operand | .underflow | .knob => true
  | _ => false

/-- Whether a fault is the file system's or the output's. -/
def isSystemFault (f : Fault) : Bool :=
  match f.kind with
  | .unidentified | .system | .missing | .alreadyThere | .isDirectory | .notDirectory | .denied =>
    true
  | _ => false

/-- The fault of an integer that the machine does not write. -/
def tooLong [Machine] : Fault := .tooManyDigits (Machine.digits?.getD 0)

/-- A fault whose wording names integers. It is another one if the machine does not write them. -/
def naming [Machine] (ns : List Int) (f : Fault) : Fault :=
  if ns.all Machine.writes then f else tooLong

/-- Whether a fault says that a value cannot be used. Undecodable bytes, characters that cannot be
encoded, and the faults of a script's text, directives and operands are among those. -/
def isValueFault (f : Fault) : Bool :=
  match f.kind with
  | .value | .undecodable | .unencodable | .syntaxFault | .configuration | .operand => true
  | _ => false

end Fault

namespace LineFault

/-- The wording of what is wrong with a line. -/
def message : LineFault → String
  | unknownCommand word => "unknown command '" ++ word ++ "'"
  | notNumbers command expected found =>
    "'" ++ command.name ++ "' expects " ++ toString expected ++ " numbers, got " ++
      (if found.isEmpty then "nothing" else " ".intercalate found)
  | notInteger command found =>
    "'" ++ command.name ++ "' expects an integer, got '" ++ found ++ "'"
  | argumentsFound command => "'" ++ command.name ++ "' takes no arguments"
  | rotateShape => "'rotate' expects an axis, degrees and an optional knob"
  | notAxis found => "'rotate' axis must be x, y or z, got '" ++ found ++ "'"
  | notOneFile => "'save' expects exactly one file name"
  | notOneInteger => "'frames' expects exactly one integer"
  | notOneName => "'basename' expects exactly one name"
  | varyShape => "'vary' expects a knob, start frame, end frame, start value and end value"
  | setShape => "'set' expects a knob name and a value"

end LineFault

namespace FileFault

/-- The number of a refusal. -/
def code : FileFault → Nat
  | missing => 2
  | alreadyThere => 17
  | notDirectory => 20
  | isDirectory => 21
  | nameTooLong => 36
  | denied => 13
  | noSpace => 28

/-- The wording of a refusal. -/
def message : FileFault → String
  | missing => "No such file or directory"
  | alreadyThere => "File exists"
  | notDirectory => "Not a directory"
  | isDirectory => "Is a directory"
  | nameTooLong => "File name too long"
  | denied => "Permission denied"
  | noSpace => "No space left on device"

end FileFault

namespace ByteFault

/-- The wording of what is wrong with bytes. -/
def message : ByteFault → String
  | badStart => "invalid start byte"
  | badContinuation => "invalid continuation byte"
  | cutShort => "unexpected end of data"

end ByteFault

namespace ImageFault

/-- The wording of what is wrong with an image file. -/
def message : ImageFault → String
  | cutShort left => "image file is truncated (" ++ toString left ++ " bytes not processed)"
  | ended => "image file is truncated"
  | readTooLittle => "Truncated File Read"
  | tooLittle => "not enough image data"
  | broken => "broken data stream when reading image file"
  | unrecognised => "unrecognized data stream contents when reading image file"
  | overrun => "buffer overrun when reading image file"
  | misconfigured => "codec configuration error when reading image file"
  | outsideFile => "[Errno 22] Invalid argument"
  | notReadable => "cannot load this image"
  | unknownLayout => "unknown raw mode for given image mode"
  | unknownMode => "unrecognized image mode"
  | badPalette => "invalid palette size"
  | outsidePicture => "tile cannot extend outside image"
  | noPixels => "Size must be positive"
  | missingByte => "index out of range"
  | missingPair found =>
    "not enough values to unpack (expected 2, got " ++ toString found ++ ")"
  | shortChunk name => "Truncated " ++ name ++ " chunk"
  | shortFrameChunk name => "APNG contains truncated " ++ name ++ " chunk"
  | frameSequence => "APNG contains frame sequence errors"
  | frameOutside => "APNG contains invalid frames"
  | unknownFilter => "unknown filter category"
  | unknownMethod method name =>
    "Unknown compression method " ++ toString method ++ " in " ++ name ++ " chunk"
  | textTooLong => "Decompressed data too large for PngImagePlugin.MAX_TEXT_CHUNK"
  | badChunk name => "broken PNG file (chunk " ++ name ++ ")"
  | unsupportedBitmap what n => "Unsupported BMP " ++ what ++ " (" ++ toString n ++ ")"
  | badLayout => "Unsupported BMP bitfields layout"
  | headEnded => "Reached EOF while reading header"
  | headWordTooLong word =>
    Text.quotedBytes ("Token too long in file header: ".toUTF8.toList ++ word)
  | notNumber word => "invalid literal for int() with base 10: " ++ Text.quotedBytes word
  | notFraction word => "could not convert string to float: " ++ Text.quotedBytes word
  | badGreatest => "maxval must be greater than 0 and less than 65536"
  | badScale => "scale must be finite and non-zero"
  | wordTooLong word => Text.quotedBytes ("Token too long found in data: ".toUTF8.toList ++ word)
  | notBit word => Text.quotedBytes ("Invalid token for this mode: ".toUTF8.toList ++ [word])
  | negativeValue value => "Channel value is negative: " ++ toString value
  | valueTooLarge value => "Channel value too large for this mode: " ++ toString value
  | tooManyPixels count limit =>
    "Image size (" ++ toString count ++ " pixels) exceeds limit of " ++ toString limit ++
      " pixels, could be decompression bomb DOS attack."
  | bufferTooSmall => "buffer is not large enough"
  | missingParts found =>
    "not enough values to unpack (expected 4, got " ++ toString found ++ ")"
  | unknownExchange => "unknown PCX mode"
  | unsupportedWorkstation => "Unsupported SGI image mode"
  | surfaceHead size => "Unsupported header size " ++ toString size
  | surfaceHeadCut size => "Incomplete header: " ++ toString size ++ " bytes"
  | surfaceDepth bits flags =>
    "Unsupported bitcount " ++ toString bits ++ " for " ++ toString flags
  | unknownPixelFormat code => "Unimplemented pixel format " ++ toString code
  | unknownSurfaceFormat number => "Unimplemented DXGI format " ++ toString number
  | surfaceFlags flags => "Unknown pixel format flags " ++ toString flags
  | paintingTableCut => "Truncated MSP file in row map"
  | paintingRowCut length row =>
    "Truncated MSP file, expected " ++ toString length ++ " bytes on row " ++ toString row
  | paintingRowBroken row => "Corrupted MSP file in row " ++ toString row
  | tooFewChannels => "not enough channels"
  | skyEnded => "Truncated FITS file"
  | skyEmpty => "No image data"
  | notFractionText text =>
    "could not convert string to float: " ++
      Text.quoted (String.ofList (text.map fun b => Char.ofNat b.toNat))
  | unknownTexture number => "Invalid texture compression format: " ++ toString number
  | unknownPacking what number => what ++ " " ++ toString number
  | noPhotograph => "not a JPEG file"
  | noBoundingBox => "cannot determine EPS bounding box"
  | badSourcePixmap => "cannot read this XPM file"
  | noSuchColour => "tuple.index(x): x not in tuple"
  | noSuchKey key => Text.quotedBytes key
  | badFieldLength => "illegal field length in IPTC/NAA file"
  | badField => "invalid IPTC/NAA file"
  | fieldCut => "unpack_from requires a buffer of at least 5 bytes for unpacking 2 bytes at " ++
    "offset 3 (actual buffer size is 4)"
  | unknownPress => "Unknown IPTC image compression"
  | unknownIconPicture => "Unsupported icon subimage format"
  | noSuchIconSize => "This is not one of the allowed sizes of this image"
  | iconPartLeft count => "Error reading channel [" ++ toString count ++ " left]"
  | iconMark => "Unknown signature, expecting 0x00000000"
  | noIconColours => "'RGB'"
  | stillEnded => "Failed to decode frame 0: Truncated data"
  | cannotUnpack code => "decoder error " ++ toString code
  | badSize => "Invalid dimensions"
  | badTileSize => "Invalid tile dimensions"
  | noDecoder => "could not create decoder object"
  | noNextFrame => "failed to read next frame"
  | badUnit => "Invalid inch"
  | noLoader format => "cannot find loader for this " ++ format ++ " file"
  | needsProgram => "Unable to locate Ghostscript on paths"

end ImageFault

namespace Fault

/-- A list of sizes in brackets. -/
def shapeText (shape : List Nat) : String :=
  match shape with
  | [n] => "(" ++ toString n ++ ",)"
  | _ => "(" ++ ", ".intercalate (shape.map toString) ++ ")"

/-- The wording of a fault. -/
def message : Fault → String
  | badLine line why => "line " ++ toString line ++ ": " ++ why.message
  | varyWithoutFrames => "'vary' requires a 'frames' command to know the animation length."
  | badFrameCount count => "Frame count must be a positive integer, got " ++ count.shown ++ "."
  | rampBeforeStart knob start =>
    "vary '" ++ knob ++ "': start frame " ++ toString start ++ " is negative."
  | rampReversed knob start stop =>
    "vary '" ++ knob ++ "': end frame " ++ toString stop ++ " precedes start frame " ++
      toString start ++ "."
  | rampPastEnd knob stop last =>
    "vary '" ++ knob ++ "': end frame " ++ toString stop ++ " is beyond the last frame (" ++
      toString last ++ ")."
  | cannotSave target why => "cannot save '" ++ target ++ "': " ++ why.message
  | noMatchingPush =>
    "pop without a matching push: the base coordinate system cannot be removed."
  | undefinedKnob name => "Knob '" ++ name ++ "' is not defined."
  | undefinedColour | undefinedCell => "cannot convert float NaN to integer"
  | infiniteCell => "cannot convert float infinity to integer"
  | tooManyDigits most =>
    "Exceeds the limit (" ++ toString most ++ " digits) for integer string conversion; use " ++
      "sys.set_int_max_str_digits() to increase the limit"
  | partNotByte part => "Python integer " ++ toString part ++ " out of bounds for uint8"
  | partNotWord => "Python int too large to convert to C long"
  | angleNotFinite => "math domain error"
  | noSuchAxis code => toString code ++ " is not a valid Axis"
  | negativeSize => "negative dimensions are not allowed"
  | sizeNotWord => "Maximum allowed dimension exceeded"
  | sizeTooLarge =>
    "array is too big; `arr.size * arr.dtype.itemsize` is larger than the maximum possible size."
  | noRoom shape itemSize item =>
    "Unable to allocate " ++ Decimal.memory (shape.foldl (· * ·) itemSize) ++
      " for an array with shape " ++ shapeText shape ++ " and data type " ++ item
  | countTooLarge => "Maximum allowed size exceeded"
  | negativeSamples count =>
    "Number of samples, " ++ toString count ++ ", must be non-negative."
  | noFrames => "No frames to assemble into an animation."
  | noDirectory => "expected str, bytes or os.PathLike object, not list"
  | unknownFormat extension => "unknown file extension: " ++ extension
  | readOnlyFormat format => "'" ++ format ++ "'"
  | wrongMode format => "cannot write mode RGB as " ++ format
  | unsupportedMode format => "Unsupported " ++ format ++ " image mode"
  | noHandler format => format ++ " save handler not installed"
  | emptyPicture => "cannot write empty image"
  | emptyExchange => "Cannot write empty image as PCX"
  | noCanvas => "invalid canvas dimensions"
  | sizeNotPositive => "Size must be positive"
  | noPictureRoom => "can't allocate picture frame"
  | nothingToShow => "zero-size array to reduction operation minimum which has no identity"
  | fieldTooLarge => "int too big to convert"
  | fieldNegative => "can't convert negative int to unsigned"
  | sideNotWord => "'H' format requires 0 <= number <= 65535"
  | quotientTooLarge => "integer division result too large for a float"
  | brokenStream => "broken data stream when writing image file"
  | encoderRefused => "Failed to encode image: Invalid argument"
  | noIconSize => "All sizes too large for image"
  | pastLimit format limit =>
    "encoding error 5: Image size exceeds " ++ format ++ " limit of " ++ toString limit ++
      " pixels"
  | nulInPath => "embedded null byte"
  | undecodable first start stop why =>
    let place :=
      if stop = start + 1 then
        "byte 0x" ++ String.ofList (Text.hex 2 first.toNat) ++ " in position " ++ toString start
      else "bytes in position " ++ toString start ++ "-" ++ toString (stop - 1)
    "'utf-8' codec can't decode " ++ place ++ ": " ++ why.message
  | unencodable first start stop =>
    let place :=
      if stop = start + 1 then
        "character '" ++ String.ofList (Text.numbered first) ++ "' in position " ++ toString start
      else "characters in position " ++ toString start ++ "-" ++ toString (stop - 1)
    "'ascii' codec can't encode " ++ place ++ ": ordinal not in range(128)"
  | noSuchFrame => "list index out of range"
  | frameNotWord => "cannot fit 'int' into an index-sized integer"
  | outOfBounds index axis size =>
    "index " ++ toString index ++ " is out of bounds for axis " ++ toString axis ++
      " with size " ++ toString size
  | indexNotWord =>
    "only integers, slices (`:`), ellipsis (`...`), numpy.newaxis (`None`) and integer or " ++
      "boolean arrays are valid indices"
  | zeroToNegativePower => "0.0 cannot be raised to a negative power"
  | powerTooLarge => "(34, 'Numerical result out of range')"
  | integerTooLarge => "int too large to convert to float"
  | unwritable path => "cannot write " ++ path
  | notAnImage path => "cannot identify image file " ++ Text.quoted path
  | badImage why => why.message
  | file why path =>
    "[Errno " ++ toString why.code ++ "] " ++ why.message ++ ": " ++ Text.quoted path
  | openFile why => "[Errno " ++ toString why.code ++ "] " ++ why.message

end Fault

end SceneScript
