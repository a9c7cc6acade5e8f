import Gatehouse.SystemError.Errno

/-!
# Errors of the operating system

An error of a file or socket operation has a kind and a text.  It comes from an error number, from
a kind alone, or with a text of its own.
-/

namespace Gatehouse

/-- What went wrong in a file or socket operation. -/
inductive SystemError
  /-- The operation failed with this error number. -/
  | errno (number : Int)
  /-- The kind is all that is known. -/
  | ofKind (kind : ErrorKind)
  /-- A kind, with words of its own. -/
  | custom (kind : ErrorKind) (message : String)
deriving DecidableEq, Repr

namespace SystemError

/-- The kind of an error. -/
def kind : SystemError → ErrorKind
  | errno number => ErrorKind.ofErrno number
  | ofKind kind => kind
  | custom kind _ => kind

/-- The error in words. -/
def message : SystemError → String
  | errno number => Errno.text number ++ " (os error " ++ Int.repr number ++ ")"
  | ofKind kind => kind.text
  | custom _ message => message

/-- The other side hung up with data still unread on its side. -/
def connectionReset : SystemError := errno 104

/-- The other side hung up before a write. -/
def brokenPipe : SystemError := errno 32

/-- Nobody listens at the address. -/
def connectionRefused : SystemError := errno 111

/-- There is no file of that name. -/
def noSuchFile : SystemError := errno 2

/-- The name is that of a directory. -/
def isDirectory : SystemError := errno 21

/-- The bytes of a file are no text. -/
def notUtf8 : SystemError := custom .invalidData "stream did not contain valid UTF-8"

/-- The stream ended before everything asked for was read. -/
def earlyEnd : SystemError := custom .unexpectedEof "early eof"

end SystemError

end Gatehouse
