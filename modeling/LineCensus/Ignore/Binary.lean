/-!
# LineCensus.Ignore.Binary — formats that hold no text

1. `binaryExtensions`: extensions of images, sound and video, archives, compiled code, fonts and documents.
2. `isBinaryExtension`: membership, in any ASCII case.
-/

namespace LineCensus

/-- Extensions of formats that hold no text, without their dot. -/
def binaryExtensions : List String :=
  ["png", "jpg", "jpeg", "gif", "bmp", "ico", "webp", "tif", "tiff", "psd", "svg",
   "mp3", "mp4", "wav", "ogg", "flac", "aac", "avi", "mov", "mkv", "webm",
   "zip", "tar", "gz", "tgz", "bz2", "xz", "7z", "rar", "jar", "war",
   "exe", "dll", "so", "dylib", "a", "o", "obj", "lib", "bin", "class", "pyc", "pyo", "wasm",
   "ttf", "otf", "woff", "woff2", "eot",
   "pdf", "doc", "docx", "xls", "xlsx", "ppt", "pptx", "db", "sqlite", "sqlite3"]

/-- A text with its ASCII letters in lower case. -/
def asciiLower (text : List Char) : List Char := text.map Char.toLower

/-- Whether an extension belongs to a format that holds no text. -/
def isBinaryExtension (extension : List Char) : Bool :=
  binaryExtensions.any fun known => asciiLower known.toList == asciiLower extension

end LineCensus
