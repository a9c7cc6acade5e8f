import Gatehouse.Noise.Suite

/-!
# Acts

The three messages of the handshake, and how their bytes are cut into fields.  Acts one and two are
*key acts*: a version, an ephemeral key in the clear and a tag.  Act three is the *static act*: a
version, the initiator's sealed static key and a tag.
-/

namespace Gatehouse

/-- One of the three handshake messages. -/
inductive Act
  | one
  | two
  | three
deriving DecidableEq, Repr

/-- The act in words. -/
def Act.name : Act → String
  | .one => "one"
  | .two => "two"
  | .three => "three"

/-- The side of the handshake that a machine plays. -/
inductive Role
  /-- The side that knows the other's static key and speaks first. -/
  | initiator
  /-- The side that learns the other's static key in act three. -/
  | responder
deriving DecidableEq, Repr

/-- The role in words. -/
def Role.name : Role → String
  | .initiator => "Initiator"
  | .responder => "Responder"

/-- The only version of the handshake there is. -/
def handshakeVersion : UInt8 := 0

/-- The size of acts one and two in bytes. -/
abbrev keyActSize : Nat := 49

/-- The size of act three in bytes. -/
abbrev staticActSize : Nat := 65

/-- The size of an act in bytes. -/
def Act.size : Act → Nat
  | .one => keyActSize
  | .two => keyActSize
  | .three => staticActSize

/-- The fields of acts one and two. -/
@[ext] structure KeyAct where
  version : UInt8
  /-- The sender's ephemeral public key. -/
  key : PublicKey
  /-- The empty text, sealed. -/
  tag : Octets 16
deriving DecidableEq

/-- The fields of act three. -/
@[ext] structure StaticAct where
  version : UInt8
  /-- The initiator's static public key, sealed. -/
  sealedKey : Octets 48
  /-- The empty text, sealed. -/
  tag : Octets 16
deriving DecidableEq

namespace KeyAct

/-- Cut a key act into its fields. -/
def ofOctets (a : Octets keyActSize) : KeyAct where
  version := a.bytes.headD 0
  key := a.slice 1 32 (by decide)
  tag := a.slice 33 16 (by decide)

/-- The fields one after another. -/
def toOctets (a : KeyAct) : Octets keyActSize :=
  ⟨a.version :: (a.key.bytes ++ a.tag.bytes), by
    simp [a.key.length_eq, a.tag.length_eq]⟩

theorem ofOctets_toOctets (a : KeyAct) : ofOctets a.toOctets = a := by
  have hk := a.key.length_eq
  have ht := a.tag.length_eq
  ext1
  · rfl
  · ext1
    simp [ofOctets, toOctets, Octets.slice, hk]
  · ext1
    simp [ofOctets, toOctets, Octets.slice, hk, List.take_of_length_le (Nat.le_of_eq ht)]

theorem toOctets_ofOctets (a : Octets keyActSize) : (ofOctets a).toOctets = a := by
  obtain ⟨b, hb⟩ := a
  cases b with
  | nil => simp at hb
  | cons v rest =>
    ext1
    replace hb : rest.length + 1 = 49 := hb
    have h : rest.drop 32 = (rest.drop 32).take 16 := by
      rw [List.take_of_length_le]; simp only [List.length_drop]; omega
    simp only [ofOctets, toOctets, Octets.slice, List.headD_cons, List.drop_succ_cons,
      List.drop_zero]
    rw [← h, List.take_append_drop]

end KeyAct

namespace StaticAct

/-- Cut a static act into its fields. -/
def ofOctets (a : Octets staticActSize) : StaticAct where
  version := a.bytes.headD 0
  sealedKey := a.slice 1 48 (by decide)
  tag := a.slice 49 16 (by decide)

/-- The fields one after another. -/
def toOctets (a : StaticAct) : Octets staticActSize :=
  ⟨a.version :: (a.sealedKey.bytes ++ a.tag.bytes), by
    simp [a.sealedKey.length_eq, a.tag.length_eq]⟩

theorem ofOctets_toOctets (a : StaticAct) : ofOctets a.toOctets = a := by
  have hk := a.sealedKey.length_eq
  have ht := a.tag.length_eq
  ext1
  · rfl
  · ext1
    simp [ofOctets, toOctets, Octets.slice, hk]
  · ext1
    simp [ofOctets, toOctets, Octets.slice, hk, List.take_of_length_le (Nat.le_of_eq ht)]

theorem toOctets_ofOctets (a : Octets staticActSize) : (ofOctets a).toOctets = a := by
  obtain ⟨b, hb⟩ := a
  cases b with
  | nil => simp at hb
  | cons v rest =>
    ext1
    replace hb : rest.length + 1 = 65 := hb
    have h : rest.drop 48 = (rest.drop 48).take 16 := by
      rw [List.take_of_length_le]; simp only [List.length_drop]; omega
    simp only [ofOctets, toOctets, Octets.slice, List.headD_cons, List.drop_succ_cons,
      List.drop_zero]
    rw [← h, List.take_append_drop]

end StaticAct

/-- Why a handshake failed. -/
inductive HandshakeError
  /-- The act carries a version that is not spoken here. -/
  | unknownVersion (act : Act) (version : UInt8)
  /-- A public key with which a secret contributes nothing, or that is missing. -/
  | invalidKey (act : Act)
  /-- A sealed field does not open. -/
  | badTag (act : Act)
  /-- The machine does not send or expect this act now. -/
  | outOfOrder (act : Act) (role : Role)
  /-- A field could not be sealed. -/
  | cipher (act : Act)
deriving DecidableEq, Repr

/-- The error in words. -/
def HandshakeError.message : HandshakeError → String
  | .unknownVersion act version =>
    "act " ++ act.name ++ ": unknown handshake version " ++ Nat.repr version.toNat
  | .invalidKey act => "act " ++ act.name ++ ": invalid public key"
  | .badTag act => "act " ++ act.name ++ ": authentication failed"
  | .outOfOrder act role =>
    "act " ++ act.name ++ " is not valid for a " ++ role.name ++ " in the current handshake state"
  | .cipher act => "act " ++ act.name ++ ": encryption failed"

end Gatehouse
