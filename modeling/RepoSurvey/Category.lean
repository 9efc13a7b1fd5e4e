import RepoSurvey.Files.Path
import RepoSurvey.Text.Trim

/-!
# Categories of content

What a file holds is told from the extension of its name alone.
-/

namespace RepoSurvey

inductive Category
  | script
  | structuredData
  | markup
  | stylesheet
  | prose
  /-- Pictures, sound, fonts, archives and other binary files. -/
  | media
  | unsupported
  deriving DecidableEq, Repr

namespace Category

def name : Category → String
  | script => "Script"
  | structuredData => "StructuredData"
  | markup => "Markup"
  | stylesheet => "Stylesheet"
  | prose => "Prose"
  | media => "Media"
  | unsupported => "Unsupported"

def all : List Category :=
  [script, structuredData, markup, stylesheet, prose, media, unsupported]

def ofName? (name : String) : Option Category := all.find? (·.name == name)

/-- Whether files of a category are parsed at all. -/
def isParsed : Category → Bool
  | media | unsupported => false
  | _ => true

/-- Why a file is not parsed. -/
def skipReason : Category → String
  | media => "Binary or media file"
  | _ => "Unsupported file type"

/-- The extensions of a category, in small letters. -/
def extensions : Category → List String
  | script => ["js", "jsx", "mjs", "cjs", "ts", "tsx", "mts", "cts"]
  | structuredData => ["json"]
  | markup => ["html", "htm"]
  | stylesheet => ["css"]
  | prose => ["md", "markdown"]
  | media =>
      ["png", "jpg", "jpeg", "gif", "bmp", "ico", "webp", "svg", "tif", "tiff", "avif", "heic",
        "mp3", "wav", "ogg", "flac", "aac", "m4a", "mp4", "webm", "mov", "avi", "mkv",
        "woff", "woff2", "ttf", "otf", "eot",
        "pdf", "zip", "gz", "tgz", "tar", "rar", "7z", "bz2", "xz",
        "exe", "dll", "so", "dylib", "bin", "wasm", "class", "jar", "o", "a"]
  | unsupported => []

def ofExtension (extension : String) : Category :=
  (all.find? fun category => category.extensions.contains (asciiLower extension)).getD unsupported

/-- The category of a file. -/
def ofPath (path : String) : Category := (Path.extension? path).elim unsupported ofExtension

end Category

end RepoSurvey
