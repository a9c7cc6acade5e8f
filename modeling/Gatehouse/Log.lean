import Gatehouse.Config

/-!
# Log events

What the gate reports while it serves.  A filter says which levels are let through for which parts of
the program: of the directives whose part an event comes from, the one that names it most closely
decides.
-/

namespace Gatehouse

/-- How much an event matters. -/
inductive LogLevel
  | error
  | warn
  | info
  | debug
  | trace
deriving DecidableEq, Repr

namespace LogLevel

/-- The name of a level. -/
def name : LogLevel → String
  | error => "ERROR"
  | warn => "WARN"
  | info => "INFO"
  | debug => "DEBUG"
  | trace => "TRACE"

/-- The place of a level, the most urgent first. -/
def rank : LogLevel → Nat
  | error => 1
  | warn => 2
  | info => 3
  | debug => 4
  | trace => 5

end LogLevel

/-- A detail of an event. -/
inductive LogValue
  | text (value : String)
  | number (value : Nat)
deriving DecidableEq, Repr

/-- Something worth a line in the log. -/
structure LogEvent where
  level : LogLevel
  /-- The part of the program that it comes from. -/
  target : String
  message : String
  details : List (String × LogValue) := []
deriving DecidableEq, Repr

/-! ## Filters -/

/-- What is let through of a part of the program: events whose level has at most this rank. -/
structure LogDirective where
  /-- The part; every part has the empty one in front. -/
  target : String
  rank : Nat
deriving DecidableEq, Repr

/-- Which events are let through. -/
abbrev LogFilter := List LogDirective

namespace LogFilter

/-- The rank that a word stands for. -/
def rankOf? (word : String) : Option Nat :=
  let word := String.ofList (word.toList.map Char.toLower)
  [("off", 0), ("error", 1), ("warn", 2), ("info", 3), ("debug", 4), ("trace", 5),
   ("0", 0), ("1", 1), ("2", 2), ("3", 3), ("4", 4), ("5", 5)].lookup word

/-- Cut characters at every place where this one stands. -/
def cutAll (c : Char) : List Char → List (List Char)
  | [] => [[]]
  | x :: rest =>
    let pieces := cutAll c rest
    if x = c then [] :: pieces
    else match pieces with
      | [] => [[x]]
      | piece :: more => (x :: piece) :: more

/-- The directive in a piece of a filter. -/
def directive? (piece : List Char) : Option LogDirective :=
  match cutAll '=' piece with
  | [[]] => none
  | [word] =>
    let word := String.ofList word
    match rankOf? word with
    | some rank => some ⟨"", rank⟩
    | none => some ⟨word, LogLevel.trace.rank⟩
  | [target, word] => (rankOf? (String.ofList word)).map fun rank => ⟨String.ofList target, rank⟩
  | _ => none

/-- The filter in a text.  Without any directive errors are let through. -/
def ofText (s : String) : LogFilter :=
  match (cutAll ',' s.toList).filterMap directive? with
  | [] => [⟨"", LogLevel.error.rank⟩]
  | directives => directives

/-- Is an event let through? -/
def allows (f : LogFilter) (e : LogEvent) : Bool :=
  let closest := (f.filter fun d => e.target.startsWith d.target).foldl
    -- of directives that are equally close the last one counts
    (fun best d => match best with
      | some (b : LogDirective) => if b.target.length ≤ d.target.length then some d else best
      | none => some d) none
  match closest with
  | none => false
  | some d => e.level.rank ≤ d.rank

end LogFilter

/-! ## Lines -/

namespace LogEvent

/-- A character of a text between double quotes. -/
def quoteChar (c : Char) : String :=
  if c = '"' then "\\\""
  else if c = '\\' then "\\\\"
  else if c = '\n' then "\\n"
  else if c = '\r' then "\\r"
  else if c = '\t' then "\\t"
  else if c.toNat < 32 then
    "\\u00" ++ (if c.toNat < 16 then "0" else "") ++ String.ofList (Nat.toDigits 16 c.toNat)
  else String.singleton c

/-- A text between double quotes. -/
def quote (s : String) : String := "\"" ++ String.join (s.toList.map quoteChar) ++ "\""

/-- A detail as it is written in a line. -/
def valueText : LogValue → String
  | .text s => quote s
  | .number n => Nat.repr n

/-- The event as an object on one line. -/
def jsonLine (e : LogEvent) : String :=
  let details := ("message", LogValue.text e.message) :: e.details
  let fields := String.intercalate "," (details.map fun (k, v) => quote k ++ ":" ++ valueText v)
  "\x7b\"level\":" ++ quote e.level.name ++ ",\"fields\":\x7b" ++ fields ++ "\x7d,\"target\":"
    ++ quote e.target ++ "\x7d"

/-- The event as a line for people. -/
def prettyLine (e : LogEvent) : String :=
  let detail : String × LogValue → String
    | (k, .text s) => " " ++ k ++ "=" ++ s
    | (k, .number n) => " " ++ k ++ "=" ++ Nat.repr n
  e.level.name ++ " " ++ e.target ++ ": " ++ e.message ++ String.join (e.details.map detail)

/-- The event as a line in a layout. -/
def line (format : LogFormat) (e : LogEvent) : String :=
  match format with
  | .pretty => e.prettyLine
  | .json => e.jsonLine

end LogEvent

end Gatehouse
