import Gatehouse.Noise.Suite
import Gatehouse.SystemError
import Gatehouse.Text.Blank
import Gatehouse.Text.Hex
import Gatehouse.Text.Quoted
import Gatehouse.Text.Utf8

/-!
# Keys as text

A key is written as 64 hexadecimal digits.  A key file holds those of a secret and a newline; it is
read with white space of any kind around them.
-/

namespace Gatehouse

/-- Why there is no key. -/
inductive KeyError
  /-- The key file could not be read or written. -/
  | io (cause : SystemError)
  /-- The text is not made of pairs of hexadecimal digits. -/
  | hex (fault : Hex.Fault)
  /-- The text spells this many bytes instead of 32. -/
  | length (count : Nat)
deriving DecidableEq, Repr

/-- The fault in words. -/
def Hex.Fault.message : Hex.Fault → String
  | oddLength => "Odd number of digits"
  | invalidDigit byte position =>
    "Invalid character " ++ Quoted.byte byte ++ " at position " ++ Nat.repr position

/-- The error in words. -/
def KeyError.message : KeyError → String
  | io cause => "failed to read key file: " ++ cause.message
  | hex fault => "invalid hex key: " ++ fault.message
  | length count => "key must be 32 bytes, got " ++ Nat.repr count

/-- Read the UTF-8 form of a text as a key. -/
def Key.ofHexUtf8 (b : Bytes) : Except KeyError Key :=
  match Hex.decodeUtf8 b with
  | .error fault => .error (.hex fault)
  | .ok bytes =>
    match Octets.ofBytes? 32 bytes with
    | none => .error (.length bytes.length)
    | some key => .ok key

/-- Read a text as a key. -/
def Key.ofHex (s : String) : Except KeyError Key := Key.ofHexUtf8 (Utf8.encode s)

namespace PublicKey

/-- The whole key in digits. -/
def toHex (k : PublicKey) : String := Hex.encode k.bytes

/-- The first eight digits. -/
def short (k : PublicKey) : String := Hex.encode (k.bytes.take 4)

/-- The key as it is shown inside descriptions of other things. -/
def describe (k : PublicKey) : String := "PublicKey(" ++ k.short ++ "...)"

end PublicKey

/-- What a path leads to. -/
inductive FileContent
  /-- There is no such file. -/
  | missing
  /-- A directory. -/
  | directory
  /-- A file with these bytes. -/
  | file (bytes : Bytes)
deriving DecidableEq, Repr

/-- The text of a file. -/
def FileContent.readText : FileContent → Except SystemError String
  | missing => .error .noSuchFile
  | directory => .error .isDirectory
  | file bytes =>
    match Utf8.decode? bytes with
    | none => .error .notUtf8
    | some text => .ok text

/-- A long-term key pair: its secret half. -/
structure Identity where
  /-- The secret as it was drawn or read, not yet clamped. -/
  secret : Secret
deriving DecidableEq

namespace Identity

/-- The public half. -/
def publicKey (S : Suite) (i : Identity) : PublicKey := S.publicKey i.secret

/-- Read a text as the secret half of an identity. -/
def ofHex (s : String) : Except KeyError Identity := (Key.ofHex s).map Identity.mk

/-- The text of a key file for an identity. -/
def fileText (i : Identity) : String := Hex.encode i.secret.bytes ++ "\n"

/-- Read a key file. -/
def load (content : FileContent) : Except KeyError Identity :=
  match content.readText with
  | .error cause => .error (.io cause)
  | .ok text => ofHex (Blank.trim text)

/-- The identity as it is shown in descriptions: the secret stays out of sight. -/
def describe (S : Suite) (i : Identity) : String :=
  "IdentityKey \x7b public: " ++ PublicKey.describe (i.publicKey S) ++ ", .. \x7d"

end Identity

end Gatehouse
