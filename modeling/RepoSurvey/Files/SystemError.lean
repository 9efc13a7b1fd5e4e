/-!
# Errors of the file system

Why something could not be done with a file or directory.
-/

namespace RepoSurvey

/-- The reason that the system gives, with its number if it has one. -/
structure SystemError where
  reason : String
  number : Option Nat := none
  deriving BEq, DecidableEq, Repr

namespace SystemError

def display (error : SystemError) : String :=
  match error.number with
  | some number => error.reason ++ " (os error " ++ toString number ++ ")"
  | none => error.reason

def notFound : SystemError := ⟨"No such file or directory", some 2⟩

def busy : SystemError := ⟨"Device or resource busy", some 16⟩

def alreadyExists : SystemError := ⟨"File exists", some 17⟩

def notDirectory : SystemError := ⟨"Not a directory", some 20⟩

def isDirectory : SystemError := ⟨"Is a directory", some 21⟩

def diskFull : SystemError := ⟨"No space left on device", some 28⟩

def nameTooLong : SystemError := ⟨"File name too long", some 36⟩

def notEmpty : SystemError := ⟨"Directory not empty", some 39⟩

def tooManyLinks : SystemError := ⟨"Too many levels of symbolic links", some 40⟩

/-- A path holds the character that ends texts for the system. -/
def endInPath : SystemError := ⟨"file name contained an unexpected NUL byte", none⟩

/-- What was read is not a text. -/
def notText : SystemError := ⟨"stream did not contain valid UTF-8", none⟩

/-- There is not even a directory to start from. -/
def noStart : SystemError := ⟨"failed to create whole tree", none⟩

end SystemError

end RepoSurvey
