import Gatehouse.Proofs.Config.Tables
import Gatehouse.Proofs.Toml.Lines

/-!
# Configurations that are written down

A sheet is a text line by line: headers of tables, settings below them, and lines about something else.
A configuration is written on it if every setting that is not the default is there.  The text of such a
sheet is read as the configuration, and checked (`Written.ofText`).  Where there is nothing else, tables
and settings may stand in any order (`Lays.written`).
-/

namespace Gatehouse.Config

open Toml

/-! ## Sheets -/

/-- A line of a configuration file. -/
inductive Line
  /-- The header of a table. -/
  | opening (t : Table)
  /-- A setting with its value, and how the value is spelled. -/
  | setting (s : Setting) (v : Scalar) (spelling : List Char)
  /-- Any other text, which may be a blank line or a comment, and what it says. -/
  | other (text : List Char) (said : Option Statement)

namespace Line

/-- The text of a line. -/
def text : Line → List Char
  | opening t => '[' :: (t.name.toList ++ [']', '\n'])
  | setting s _ spelling => s.name.toList ++ ' ' :: '=' :: ' ' :: (spelling ++ ['\n'])
  | other text _ => text

/-- What a line means. -/
def said : Line → Option Statement
  | opening t => some (.header [] t.name)
  | setting s v _ => some (.entry [] s.name v.node)
  | other _ said => said

/-- The setting on a line. -/
def setting? : Line → Option Setting
  | setting s _ _ => some s
  | _ => none

end Line

/-- The lines may stand where a table is open: settings of a configuration below the header of their
    table, and other lines anywhere, as long as they are about something else. -/
inductive Fits (c : Config) : (current : List String) → List Line → Prop
  | nil {current : List String} : Fits c current []
  | opening {current : List String} (t : Table) {lines : List Line} (more : Fits c [t.name] lines) :
    Fits c current (.opening t :: lines)
  | setting {s : Setting} {v : Scalar} (value : c.value? s = some v) {w : List Char}
      (spelled : v.Spelled w) {lines : List Line} (more : Fits c [s.table.name] lines) :
    Fits c [s.table.name] (.setting s v w :: lines)
  | remark {current : List String} {text : List Char} (reads : Reads text none)
      {lines : List Line} (more : Fits c current lines) :
    Fits c current (.other text none :: lines)
  | other {current : List String} {text : List Char} {said : Statement}
      (reads : Reads text (some said)) (foreign : Foreign (said.place current))
      {lines : List Line} (more : Fits c (said.opened current) lines) :
    Fits c current (.other text (some said) :: lines)

/-- The settings that are written on a sheet. -/
def settings (sheet : List Line) : List Setting := sheet.filterMap Line.setting?

/-- What a sheet has besides its settings. -/
def besides (sheet : List Line) : List Line := sheet.filter (·.setting?.isNone)

/-- A configuration is written on a sheet: every setting that is not the default, and some of the
    others, each once, under the headers of their tables, in any order.  What else is there is a
    document of its own. -/
structure Written (c : Config) (sheet : List Line) : Prop where
  fits : Fits c [] sheet
  once : (settings sheet).Nodup
  complete : ∀ s, c.value? s ≠ ({} : Config).value? s → s ∈ settings sheet
  rest : (Document.ofStatements? ((besides sheet).filterMap Line.said)).isSome

section Sheets

variable {c : Config} {current : List String} {entries : Entries} {lines : List Line}

theorem isBare_table (t : Table) : IsBare t.name.toList := by
  cases t <;> decide

theorem isBare_setting (s : Setting) : IsBare s.name.toList := by
  cases s <;> decide

/-- Every line is read for itself. -/
theorem Fits.reads (fits : Fits c current lines) : ∀ l ∈ lines, Reads l.text l.said := by
  induction fits with
  | nil => exact List.forall_mem_nil _
  | opening t more ih => exact List.forall_mem_cons.2 ⟨reads_tableHeader (isBare_table t), ih⟩
  | @setting s v value w spelled lines more ih =>
    exact List.forall_mem_cons.2
      ⟨reads_keyValue (isBare_setting s) (Scalar.read spelled _) (Scalar.front spelled), ih⟩
  | remark reads more ih => exact List.forall_mem_cons.2 ⟨reads, ih⟩
  | other reads foreign more ih => exact List.forall_mem_cons.2 ⟨reads, ih⟩

/-- A statement that commutes with taking the settings out is accepted with them if it is accepted
    without. -/
theorem exists_change {said : Statement} {more : List Statement}
    (same : said.change current .header (Entries.sieve unset entries) =
      (said.change current .header entries).map (Entries.sieve unset))
    (accepted : ((said :: more).foldlM Document.extend
      ⟨Entries.sieve unset entries, current⟩).isSome) :
    ∃ entries', said.change current .header entries = some entries' ∧
      (more.foldlM Document.extend
        ⟨Entries.sieve unset entries', said.opened current⟩).isSome := by
  rw [List.foldlM_cons, Document.extend_eq_map] at accepted
  dsimp only at accepted
  rw [same] at accepted
  cases h : said.change current .header entries with
  | none =>
    rw [h] at accepted
    cases accepted
  | some entries' =>
    rw [h] at accepted
    exact ⟨entries', rfl, accepted⟩

theorem extend_of_change {said : Statement} {entries' : Entries}
    (h : said.change current .header entries = some entries') (more : List Statement) :
    (said :: more).foldlM Document.extend ⟨entries, current⟩ =
      more.foldlM Document.extend ⟨entries', said.opened current⟩ := by
  rw [List.foldlM_cons, Document.extend_eq_map]
  dsimp only
  rw [h]
  rfl

/-- What the statements of a sheet build: each setting on it has its value. -/
structure Built (c : Config) (lines : List Line) (entries entries' : Entries) : Prop where
  tabular : ∀ t : Table, Entries.Tabular (Entries.find? t.name entries')
  there : ∀ s ∈ settings lines, ∃ v, c.value? s = some v ∧ found entries' s = some v.node
  elsewhere : ∀ s, s ∉ settings lines → found entries' s = found entries s

theorem Built.of_found {l : Line} {entries₁ entries' : Entries} (built : Built c lines entries₁ entries')
    (none : l.setting? = none) (same : ∀ s, found entries₁ s = found entries s) :
    Built c (l :: lines) entries entries' := by
  have hsettings : settings (l :: lines) = settings lines := List.filterMap_cons_none none
  refine ⟨built.tabular, ?_, ?_⟩
  · rw [hsettings]
    exact built.there
  · rw [hsettings]
    intro s hs
    rw [built.elsewhere s hs, same]

/-- If a sheet without its settings is accepted, so is the sheet, and the settings have their
    values. -/
theorem Fits.built (fits : Fits c current lines) (sound : Sound current entries)
    (fresh : ∀ s ∈ settings lines, found entries s = none) (once : (settings lines).Nodup)
    (rest : (((besides lines).filterMap Line.said).foldlM Document.extend
      ⟨Entries.sieve unset entries, current⟩).isSome) :
    ∃ d', (lines.filterMap Line.said).foldlM Document.extend ⟨entries, current⟩ = some d' ∧
      Built c lines entries d'.entries := by
  induction fits generalizing entries with
  | nil =>
    refine ⟨_, rfl, sound.tabular, ?_, fun _ _ => rfl⟩
    intro s hs
    cases hs
  | opening t more ih =>
    obtain ⟨entries₁, hchange, hrest⟩ := exists_change (change_opening_sieve t _ entries) rest
    obtain ⟨hsound, hfound⟩ := sound.opening hchange
    obtain ⟨d', hd', built⟩ := ih hsound (fun s hs => (hfound s).trans (fresh s hs)) once hrest
    exact ⟨d', (extend_of_change hchange _).trans hd', built.of_found rfl hfound⟩
  | @setting s v value w spelled lines more ih =>
    obtain ⟨hunwritten, hmore⟩ := List.nodup_cons.1 once
    obtain ⟨entries₁, hchange, hsound, hsieve, hself, hothers⟩ :=
      sound.setting v.node (fresh s List.mem_cons_self)
    have hfresh : ∀ s' ∈ settings lines, found entries₁ s' = none := by
      intro s' hs'
      have hne : s' ≠ s := by
        rintro rfl
        exact hunwritten hs'
      rw [hothers s' hne, fresh s' (List.mem_cons_of_mem s hs')]
    rw [← hsieve] at rest
    obtain ⟨d', hd', built⟩ := ih hsound hfresh hmore rest
    refine ⟨d', (extend_of_change hchange _).trans hd', built.tabular, ?_, fun s' hs' => ?_⟩
    · refine List.forall_mem_cons.2 ⟨⟨v, value, ?_⟩, built.there⟩
      rw [built.elsewhere s hunwritten, hself]
    · obtain ⟨hne, hs'⟩ := not_or.1 (mt List.mem_cons.2 hs')
      rw [built.elsewhere s' hs', hothers s' hne]
  | remark reads more ih =>
    obtain ⟨d', hd', built⟩ := ih sound fresh once rest
    exact ⟨d', hd', built.of_found rfl fun _ => rfl⟩
  | @other current text said reads foreign lines more ih =>
    have spared := foreign.spared (said.along_change current).ne_nil
    obtain ⟨entries₁, hchange, hrest⟩ :=
      exists_change ((said.along_change current).sieve spared .header entries) rest
    obtain ⟨hsound, hfound⟩ := sound.foreign foreign hchange
    obtain ⟨d', hd', built⟩ := ih hsound (fun s hs => (hfound s).trans (fresh s hs)) once hrest
    exact ⟨d', (extend_of_change hchange _).trans hd', built.of_found rfl hfound⟩

end Sheets

/-! ## Reading a sheet -/

/-- The text of a sheet. -/
def textOf (sheet : List Line) : String := String.ofList (sheet.flatMap Line.text)

section Written

variable {c : Config} {sheet : List Line}

/-- The tree of a sheet has the values of the configuration that is written on it. -/
theorem Written.entries (written : Written c sheet) :
    ∃ entries, Document.ofText? (textOf sheet) = some entries ∧ Shows c entries ∧
      ∀ t : Table, Entries.Tabular (Entries.find? t.name entries) := by
  have hrest : (((besides sheet).filterMap Line.said).foldlM Document.extend
      ⟨Entries.sieve unset [], []⟩).isSome :=
    (Option.isSome_map).symm.trans written.rest
  obtain ⟨d', hd', built⟩ := written.fits.built sound_empty (fun _ _ => rfl) written.once hrest
  refine ⟨d'.entries, ?_, fun s => ?_, built.tabular⟩
  · rw [Document.ofText?, textOf, String.toList_ofList, statements?_of_reads sheet written.fits.reads,
      Option.bind_some, Document.ofStatements?]
    exact congrArg _ hd'
  · by_cases hs : s ∈ settings sheet
    · exact .inr (built.there s hs)
    · refine .inl ⟨built.elsewhere s hs, ?_⟩
      exact Decidable.byContradiction fun hne => hs (written.complete s hne)

theorem Written.ofText (written : Written c sheet) : Config.ofText (textOf sheet) = c.checked := by
  obtain ⟨entries, hentries, shows, tabular⟩ := written.entries
  rw [Config.ofText, hentries, Option.bind_some, ofEntries?_of_shows shows tabular]

end Written

/-! ## Laying out a sheet -/

/-- Tables in some order, each with settings in some order. -/
abbrev Layout := List (Table × List Setting)

/-- The header of a table, and settings below it. -/
def block (c : Config) (t : Table) (ss : List Setting) : List Line :=
  .opening t :: ss.filterMap fun s => (c.value? s).map fun v => .setting s v v.spell

/-- A sheet with nothing but settings. -/
def lay (c : Config) (layout : Layout) : List Line := layout.flatMap fun b => block c b.1 b.2

/-- The layout has every setting that is not the default, each in its table, and nothing twice. -/
structure Lays (c : Config) (layout : Layout) : Prop where
  tables : (layout.map (·.1)).Nodup
  settings : (layout.flatMap (·.2)).Nodup
  placed : ∀ b ∈ layout, ∀ s ∈ b.2, s.table = b.1
  complete : ∀ s, c.value? s ≠ ({} : Config).value? s → s ∈ layout.flatMap (·.2)

section Layout

variable {c : Config} {t : Table} {ss : List Setting} {layout : Layout}

theorem fits_block (fits : ∀ s n, c.value? s = some (.integer n) → n ≤ largestInteger)
    (placed : ∀ s ∈ ss, s.table = t) (current : List String) {more : List Line}
    (hmore : Fits c [t.name] more) : Fits c current (block c t ss ++ more) := by
  refine .opening t ?_
  induction ss with
  | nil => exact hmore
  | cons s ss ih =>
    obtain ⟨rfl, hss⟩ := List.forall_mem_cons.1 placed
    cases hvalue : c.value? s with
    | none =>
      rw [List.filterMap_cons_none (by rw [hvalue]; rfl)]
      exact ih hss
    | some v =>
      rw [List.filterMap_cons_some (by rw [hvalue]; rfl)]
      exact .setting hvalue (Scalar.spelled_spell fun n hn => fits s n (hn ▸ hvalue)) (ih hss)

theorem fits_lay (fits : ∀ s n, c.value? s = some (.integer n) → n ≤ largestInteger)
    (placed : ∀ b ∈ layout, ∀ s ∈ b.2, s.table = b.1) (current : List String) :
    Fits c current (lay c layout) := by
  induction layout generalizing current with
  | nil => exact .nil
  | cons b layout ih =>
    obtain ⟨hb, hlayout⟩ := List.forall_mem_cons.1 placed
    exact fits_block fits hb current (ih hlayout [b.1.name])

theorem settings_block : settings (block c t ss) = ss.filter fun s => (c.value? s).isSome := by
  rw [settings, block, List.filterMap_cons_none rfl, List.filterMap_filterMap,
    ← List.filterMap_eq_filter]
  refine congrArg (List.filterMap · ss) (funext fun s => ?_)
  cases h : c.value? s <;> simp [Line.setting?, Option.guard, h]

theorem settings_lay : settings (lay c layout) =
    (layout.flatMap (·.2)).filter fun s => (c.value? s).isSome := by
  induction layout with
  | nil => rfl
  | cons b layout ih =>
    rw [List.flatMap_cons, List.filter_append, ← ih, ← settings_block]
    exact List.filterMap_append

theorem besides_block : besides (block c t ss) = [.opening t] := by
  refine congrArg (Line.opening t :: ·) (List.filter_eq_nil_iff.2 fun l hl => ?_)
  obtain ⟨s, -, hs⟩ := List.mem_filterMap.1 hl
  obtain ⟨v, -, rfl⟩ := Option.map_eq_some_iff.1 hs
  exact Bool.false_ne_true

theorem besides_lay : besides (lay c layout) = (layout.map (·.1)).map .opening := by
  induction layout with
  | nil => rfl
  | cons b layout ih =>
    have hcons : besides (lay c (b :: layout)) = besides (block c b.1 b.2) ++ besides (lay c layout) :=
      List.filter_append _ _
    rw [hcons, besides_block, ih]
    rfl

/-- Tables may be opened in any order, each once. -/
theorem opens_each {ts : List Table} (once : ts.Nodup) {entries : Entries}
    (fresh : ∀ t ∈ ts, Entries.find? t.name entries = none) (current : List String) :
    (((ts.map Line.opening).filterMap Line.said).foldlM Document.extend ⟨entries, current⟩).isSome := by
  induction ts generalizing entries current with
  | nil => rfl
  | cons t ts ih =>
    obtain ⟨hnew, honce⟩ := List.nodup_cons.1 once
    obtain ⟨ht, hts⟩ := List.forall_mem_cons.1 fresh
    have hchange : (Statement.header [] t.name).change current .header entries =
        some (Entries.set t.name (.table .header []) entries) := by
      rw [change_opening, Entries.alter, ht]
      rfl
    have hfresh : ∀ t' ∈ ts,
        Entries.find? t'.name (Entries.set t.name (.table .header []) entries) = none := by
      intro t' ht'
      have hne : t.name ≠ t'.name := fun h => hnew (Table.name_injective h ▸ ht')
      rw [Entries.find?_set_of_ne hne, hts t' ht']
    exact (congrArg Option.isSome (extend_of_change hchange _)).trans (ih honce hfresh [t.name])

/-- What has no value by default is all that may have none. -/
theorem value?_default_of_none {s : Setting} (h : c.value? s = none) :
    ({} : Config).value? s = none := by
  cases s with
  | keyPath => rfl
  | _ => cases h

/-- Settings in any order, in tables in any order, are a sheet on which the configuration is written. -/
theorem Lays.written (lays : Lays c layout)
    (fits : ∀ s n, c.value? s = some (.integer n) → n ≤ largestInteger) :
    Written c (lay c layout) where
  fits := fits_lay fits lays.placed []
  once := by
    rw [settings_lay]
    exact List.Pairwise.filter _ lays.settings
  complete := by
    intro s hs
    rw [settings_lay]
    refine List.mem_filter.2 ⟨lays.complete s hs, Option.isSome_iff_ne_none.2 fun hnone => hs ?_⟩
    rw [hnone, value?_default_of_none hnone]
  rest := by
    rw [besides_lay, Document.ofStatements?, Option.isSome_map]
    exact opens_each lays.tables (fun _ _ => rfl) []

end Layout

theorem checked_of_nil {c : Config} (h : c.violations = []) : c.checked = .ok c := by
  rw [checked, h]

theorem checked_of_ne_nil {c : Config} (h : c.violations ≠ []) :
    c.checked = .error (.invalid c.violations) := by
  rw [checked]
  split
  · contradiction
  · rfl

/-- A configuration whose numbers fit 64 bits with a sign can be written down with its tables and their
    settings in any order.  However it is written, and whatever else is there, it is read back if
    nothing is wrong with it, and otherwise all that is wrong with it is told. -/
theorem read_as_written (c : Config)
    (maxHandshakes : c.listener.maxHandshakes.toNat ≤ largestInteger)
    (handshakeTimeout : c.listener.handshakeTimeoutMs.toNat ≤ largestInteger) :
    (∀ layout, Lays c layout → Written c (lay c layout)) ∧ ∀ sheet, Written c sheet →
      (c.violations = [] → ofText (textOf sheet) = .ok c) ∧
      (c.violations ≠ [] → ofText (textOf sheet) = .error (.invalid c.violations)) := by
  have fits : ∀ s n, c.value? s = some (.integer n) → n ≤ largestInteger := by
    intro s n h
    have hport := c.listener.port.toNat_lt
    have hlargest : 65536 ≤ largestInteger := by decide
    cases s with
    | port =>
      cases h
      omega
    | maxHandshakes =>
      cases h
      exact maxHandshakes
    | handshakeTimeoutMs =>
      cases h
      exact handshakeTimeout
    | keyPath =>
      obtain ⟨path, -, hpath⟩ := Option.map_eq_some_iff.1 h
      cases hpath
    | _ => cases h
  refine ⟨fun layout lays => lays.written fits, fun sheet written => ⟨fun hnil => ?_, fun hne => ?_⟩⟩
  · rw [written.ofText, checked_of_nil hnil]
  · rw [written.ofText, checked_of_ne_nil hne]

/-- A configuration that is not the default in all of its tables. -/
def sample : Config where
  listener := { bindHost := "::1", maxHandshakes := 16 }
  identity := { keyPath := some "a\"\n" }
  observability := { logFormat := .json }

/-- The sample, with a comment, keys and a table that are not known, and a default written out. -/
def sampleSheet : List Line :=
  [.other ('#' :: (" gate".toList ++ ['\n'])) none,
   .other ("owner".toList ++ ' ' :: '=' :: ' ' :: ("true".toList ++ ['\n']))
     (some (.entry [] "owner" (.boolean true))),
   .opening .observability,
   .setting .logFormat (.string "json") (Scalar.string "json").spell,
   .other ("level".toList ++ ' ' :: '=' :: ' ' :: ("true".toList ++ ['\n']))
     (some (.entry [] "level" (.boolean true))),
   .other ('[' :: ("listener".toList ++ (dotted ["tls".toList] ++ [']', '\n'])))
     (some (.header ["listener"] "tls")),
   .other ("port".toList ++ ' ' :: '=' :: ' ' :: ("true".toList ++ ['\n']))
     (some (.entry [] "port" (.boolean true))),
   .opening .listener,
   .setting .port (.integer 2448) (Scalar.integer 2448).spell,
   .setting .maxHandshakes (.integer 16) (Scalar.integer 16).spell,
   .setting .bindHost (.string "::1") (Scalar.string "::1").spell,
   .opening .identity,
   .setting .keyPath (.string "a\"\n") ('"' :: 'a' :: "\\u0022\\n\"".toList)]

theorem fits_sample : Fits sample [] sampleSheet := by
  have string : ∀ s : String, (Scalar.string s).Spelled (Scalar.string s).spell := fun s =>
    Scalar.spelled_spell fun n hn => by cases hn
  have integer : ∀ n ≤ largestInteger, (Scalar.integer n).Spelled (Scalar.integer n).spell :=
    fun n fits => ⟨rfl, fits⟩
  have path : (Scalar.string "a\"\n").Spelled ('"' :: 'a' :: "\\u0022\\n\"".toList) := by
    refine ⟨[('a', ['a']), ('"', ['\\', 'u', '0', '0', '2', '2']), ('\n', ['\\', 'n'])], ?_, rfl, rfl⟩
    refine List.forall_mem_cons.2 ⟨spelled_spellChar 'a', List.forall_mem_cons.2 ⟨?_,
      List.forall_mem_singleton.2 (.letter 'n' (by decide))⟩⟩
    exact .four _ rfl ⟨[0, 0, 2, 2], by decide, by decide⟩
  have flag : ∀ name : String, IsBare name.toList →
      Reads (name.toList ++ ' ' :: '=' :: ' ' :: ("true".toList ++ ['\n']))
        (some (.entry [] name (.boolean true))) := fun name bare =>
    reads_keyValue bare (Scalar.read (v := .boolean true) rfl _)
      (Scalar.front (v := .boolean true) rfl)
  have header : Reads ('[' :: ("listener".toList ++ (dotted ["tls".toList] ++ [']', '\n'])))
      (some (.header ["listener"] "tls")) := reads_header (by decide) (by decide) (by decide)
  have format : sample.value? .logFormat = some (.string "json") := rfl
  have port : sample.value? .port = some (.integer 2448) := rfl
  have maxHandshakes : sample.value? .maxHandshakes = some (.integer 16) := rfl
  have bindHost : sample.value? .bindHost = some (.string "::1") := rfl
  have keyPath : sample.value? .keyPath = some (.string "a\"\n") := rfl
  refine .remark (reads_comment (by decide)) ?_
  refine .other (flag "owner" (by decide)) (by decide) ?_
  refine .opening .observability (.setting format (string "json") ?_)
  refine .other (flag "level" (by decide)) (by decide) ?_
  refine .other header (by decide) (.other (flag "port" (by decide)) (by decide) ?_)
  refine .opening .listener (.setting port (integer 2448 (by decide)) ?_)
  refine .setting maxHandshakes (integer 16 (by decide)) (.setting bindHost (string "::1") ?_)
  exact .opening .identity (.setting keyPath path .nil)

theorem written_sample : Written sample sampleSheet where
  fits := fits_sample
  once := by decide
  complete := fun s => by cases s <;> decide
  rest := rfl

/-- Every setting in its table: a layout for any configuration. -/
def Layout.all : Layout := Table.all.map fun t => (t, Setting.all.filter (·.table = t))

theorem lays_all (c : Config) : Lays c Layout.all where
  tables := by decide
  settings := by decide
  placed := by decide
  complete := fun s _ => by cases s <;> decide

/-- The sample is read back; without room for a handshake it would be refused. -/
theorem read_as_written_sample :
    ofText (textOf sampleSheet) = .ok sample ∧
      ofText (textOf (lay { sample with listener.maxHandshakes := 0 } Layout.all)) =
        .error (.invalid [.noHandshakes]) := by
  obtain ⟨-, hread⟩ := read_as_written sample (by decide) (by decide)
  obtain ⟨hlay, hrefused⟩ :=
    read_as_written { sample with listener.maxHandshakes := 0 } (by decide) (by decide)
  refine ⟨(hread sampleSheet written_sample).1 (by decide), ?_⟩
  exact (hrefused _ (hlay Layout.all (lays_all _))).2 (by decide)

end Gatehouse.Config
