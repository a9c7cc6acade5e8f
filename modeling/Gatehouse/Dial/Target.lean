import Gatehouse.Address.Socket
import Gatehouse.Failure
import Gatehouse.Text.Reader

/-!
# What to dial

A text names the listener: a socket address, or a host and a port, which is what stands after the last
colon.
-/

namespace Gatehouse

/-- Where a listener is to be found. -/
inductive DialTarget
  | address (address : SocketAddress)
  /-- A host that has to be looked up. -/
  | host (name : String) (port : UInt16)
deriving DecidableEq

namespace DialTarget

/-- Cut a text at the last place where this character stands. -/
def cutAtLast (c : Char) : List Char → Option (List Char × List Char)
  | [] => none
  | x :: rest =>
    match cutAtLast c rest with
    | some (front, back) => some (x :: front, back)
    | none => if x = c then some ([], rest) else none

/-- A port, with or without a plus sign. -/
def portOf? (cs : List Char) : Option UInt16 :=
  let digits := match cs with
    | '+' :: rest => rest
    | cs => cs
  match Address.port (':' :: digits) with
  | some (port, []) => some port
  | _ => none

/-- There is no colon. -/
def noPort : SystemError := .custom .invalidInput "invalid socket address"

/-- What stands after the last colon is no port. -/
def badPort : SystemError := .custom .invalidInput "invalid port value"

/-- The host cannot be found. -/
def unknownHost : SystemError :=
  .custom .uncategorized "failed to lookup address information: Name or service not known"

/-- What a text names. -/
def ofText (s : String) : Except SystemError DialTarget :=
  match SocketAddress.ofText? s with
  | some a => .ok (.address a)
  | none =>
    match cutAtLast ':' s.toList with
    | none => .error noPort
    | some (front, back) =>
      match portOf? back with
      | none => .error badPort
      | some port =>
        match IpAddress.ofText? (String.ofList front) with
        | some ip => .ok (.address { ip, port })
        | none => .ok (.host (String.ofList front) port)

/-- The address that a text names, given what looking up a host gives. -/
def resolve (lookup : String → Except SystemError IpAddress) (s : String) :
    Except Failure SocketAddress :=
  match ofText s with
  | .error e => .error (.connect e)
  | .ok (.address a) => .ok a
  | .ok (.host name port) =>
    match lookup name with
    | .error e => .error (.connect e)
    | .ok ip => .ok { ip, port }

/-- Cutting at the last place leaves none behind it. -/
theorem cutAtLast_eq_some {c : Char} {cs front back : List Char}
    (h : cutAtLast c cs = some (front, back)) : cs = front ++ c :: back ∧ c ∉ back := by
  induction cs generalizing front back with
  | nil => cases h
  | cons x rest ih =>
    rw [cutAtLast] at h
    split at h
    · rename_i front' back' hr
      cases h
      obtain ⟨hr, hn⟩ := ih hr
      exact ⟨by rw [hr]; rfl, hn⟩
    · rename_i hr
      split at h
      · rename_i hx
        cases h
        refine ⟨by rw [hx]; rfl, fun hm => ?_⟩
        clear ih
        induction rest with
        | nil => cases hm
        | cons y ys ihy =>
          rw [cutAtLast] at hr
          split at hr
          · cases hr
          · rename_i hys
            split at hr
            · cases hr
            · rename_i hy
              rcases List.mem_cons.mp hm with rfl | hm
              · exact hy rfl
              · exact ihy hys hm
      · cases h

end DialTarget

end Gatehouse
