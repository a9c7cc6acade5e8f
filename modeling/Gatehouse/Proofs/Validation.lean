import Gatehouse.Proofs.Text.Blank
import Gatehouse.Server

/-!
# Whoever reads a configuration agrees with its check

A configuration is checked once and read in other places later: where the listener is bound, where its
capacity is looked at, and where metrics are set up.  The check reports just the fields that are wrong
(`field_violations`), and each of the later readers refuses a configuration exactly if the check
reports the field that it reads.  Nothing is therefore left for them to refuse in a configuration that
has passed: only a key file or the operating system can keep a gate from starting.
-/

namespace Gatehouse

namespace Config

/-! ## The fields that are checked -/

/-- A field of a configuration that is checked. -/
inductive Field
  | bindHost
  | maxHandshakes
  | handshakeTimeout
  | keyPath
  | metricsAddress
deriving DecidableEq

/-- The fields in the order in which they are checked. -/
def Field.all : List Field := [.bindHost, .maxHandshakes, .handshakeTimeout, .keyPath, .metricsAddress]

/-- The name of a field in a configuration file. -/
def Field.name : Field → String
  | .bindHost => "listener.bind_host"
  | .maxHandshakes => "listener.max_handshakes"
  | .handshakeTimeout => "listener.handshake_timeout_ms"
  | .keyPath => "identity.key_path"
  | .metricsAddress => "observability.metrics_address"

/-- What it means that a field is wrong. -/
def Wrong (c : Config) : Field → Prop
  | .bindHost => IpAddress.ofText? c.listener.bindHost = none
  | .maxHandshakes =>
    c.listener.maxHandshakes.toNat = 0 ∨ TokenPool.largest < c.listener.maxHandshakes.toNat ∨
      TokenPool.largestClaim < c.listener.maxHandshakes.toNat
  | .handshakeTimeout => c.listener.handshakeTimeoutMs.toNat = 0
  | .keyPath => c.identity.keyPath.any (·.toList.all Blank.isBlank) = true
  | .metricsAddress =>
    c.observability.metricsEnabled = true ∧
      SocketAddress.ofText? c.observability.metricsAddress = none

instance (c : Config) : DecidablePred c.Wrong
  | .bindHost => inferInstanceAs (Decidable (_ = none))
  | .maxHandshakes => inferInstanceAs (Decidable (_ ∨ _ ∨ _))
  | .handshakeTimeout => inferInstanceAs (Decidable (_ = 0))
  | .keyPath => inferInstanceAs (Decidable (_ = true))
  | .metricsAddress => inferInstanceAs (Decidable (_ ∧ _ = none))

section Reported

variable {c : Config}

/-- The name of a field, if the field is wrong. -/
def nameIfWrong (c : Config) (f : Field) : List String := ([f].filter (c.Wrong ·)).map Field.name

theorem nameIfWrong_of_wrong {f : Field} (h : c.Wrong f) : c.nameIfWrong f = [f.name] := by
  simp [nameIfWrong, h]

theorem nameIfWrong_of_right {f : Field} (h : ¬ c.Wrong f) : c.nameIfWrong f = [] := by
  simp [nameIfWrong, h]

/-- A field that is checked by one condition. -/
theorem field_ite {P : Prop} [Decidable P] {v : Violation} {f : Field} (hname : v.field = f.name)
    (hwrong : P ↔ c.Wrong f) : (if P then [v] else []).map Violation.field = c.nameIfWrong f := by
  by_cases h : P
  · rw [if_pos h, nameIfWrong_of_wrong (hwrong.1 h)]
    exact congrArg (fun name => [name]) hname
  · rw [if_neg h, nameIfWrong_of_right fun w => h (hwrong.2 w)]
    rfl

/-- A capacity is wrong if it is none, or more than a listener can have. -/
theorem wrong_maxHandshakes_iff :
    c.Wrong .maxHandshakes ↔
      c.listener.maxHandshakes.toNat = 0 ∨ maxCapacity < c.listener.maxHandshakes.toNat := by
  show _ ∨ _ ∨ _ ↔ _
  rw [maxCapacity]
  omega

theorem field_capacityViolation? :
    (capacityViolation? c.listener.maxHandshakes).toList.map Violation.field =
      c.nameIfWrong .maxHandshakes := by
  have hzero : c.listener.maxHandshakes = 0 ↔ c.listener.maxHandshakes.toNat = 0 :=
    UInt64.toNat_inj.symm
  unfold capacityViolation?
  split
  · rename_i h
    rw [nameIfWrong_of_wrong (wrong_maxHandshakes_iff.2 (.inl (hzero.1 h)))]
    rfl
  split
  · rename_i h
    rw [nameIfWrong_of_wrong (wrong_maxHandshakes_iff.2 (.inr h))]
    rfl
  · rename_i hpos hfits
    have hright : ¬ c.Wrong .maxHandshakes := by
      rw [wrong_maxHandshakes_iff, not_or]
      exact ⟨fun h => hpos (hzero.2 h), hfits⟩
    rw [nameIfWrong_of_right hright]
    rfl

theorem field_keyPath :
    (match c.identity.keyPath with
      | some path => if (Blank.trim path).isEmpty then [Violation.blankKeyPath] else []
      | none => []).map Violation.field = c.nameIfWrong .keyPath := by
  cases hpath : c.identity.keyPath with
  | none =>
    have hright : ¬ c.Wrong .keyPath := by simp [Wrong, hpath]
    rw [nameIfWrong_of_right hright]
    rfl
  | some path =>
    refine field_ite rfl ?_
    rw [Blank.isEmpty_trim_iff]
    simp [Wrong, hpath]

/-- The check reports the names of the fields that are wrong, each once and in their order. -/
theorem field_violations (c : Config) :
    c.violations.map Violation.field = (Field.all.filter (c.Wrong ·)).map Field.name := by
  have hhost : (IpAddress.ofText? c.listener.bindHost).isNone = true ↔ c.Wrong .bindHost :=
    Option.isNone_iff_eq_none
  have htimeout : c.listener.handshakeTimeoutMs = 0 ↔ c.Wrong .handshakeTimeout :=
    UInt64.toNat_inj.symm
  have hmetrics : (c.observability.metricsEnabled = true ∧
      c.observability.metricsSocketAddress?.isNone = true) ↔ c.Wrong .metricsAddress :=
    and_congr_right' Option.isNone_iff_eq_none
  have hnames : (Field.all.filter (c.Wrong ·)).map Field.name =
      c.nameIfWrong .bindHost ++ c.nameIfWrong .maxHandshakes ++ c.nameIfWrong .handshakeTimeout ++
        c.nameIfWrong .keyPath ++ c.nameIfWrong .metricsAddress := by
    simp only [nameIfWrong, ← List.map_append, ← List.filter_append]
    rfl
  rw [hnames]
  simp only [violations, List.map_append]
  rw [field_ite rfl hhost, field_capacityViolation?, field_ite rfl htimeout, field_ite rfl hmetrics]
  exact congrArg (· ++ _) (congrArg (_ ++ ·) field_keyPath)

/-- Each name stands for one field. -/
theorem Field.name_injective : ∀ f g : Field, f.name = g.name → f = g := by
  intro f g
  cases f <;> cases g <;> decide

/-- A field is reported exactly if it is wrong. -/
theorem mem_field_violations {f : Field} :
    f.name ∈ c.violations.map Violation.field ↔ c.Wrong f := by
  rw [field_violations, List.mem_map]
  constructor
  · rintro ⟨g, hg, hname⟩
    obtain rfl := Field.name_injective g f hname
    exact of_decide_eq_true (List.mem_filter.1 hg).2
  · intro hwrong
    refine ⟨f, List.mem_filter.2 ⟨?_, decide_eq_true hwrong⟩, rfl⟩
    cases f <;> decide

/-- Nothing is reported exactly if no field is wrong. -/
theorem violations_eq_nil_iff : c.violations = [] ↔ ∀ f, ¬ c.Wrong f := by
  rw [← List.map_eq_nil_iff (f := Violation.field)]
  constructor
  · intro hnil f hwrong
    have hmem := mem_field_violations.2 hwrong
    rw [hnil] at hmem
    cases hmem
  · intro hright
    rw [field_violations, List.map_eq_nil_iff, List.filter_eq_nil_iff]
    intro f _
    simpa using hright f

/-- A configuration passes the check exactly if no field is wrong; what is wrong is told if not. -/
theorem checked_spec (c : Config) :
    (c.checked = .ok c ∧ ∀ f, ¬ c.Wrong f) ∨
      (c.checked = .error (.invalid c.violations) ∧ ∃ f, c.Wrong f) := by
  unfold checked
  split
  · rename_i hnil
    exact .inl ⟨rfl, violations_eq_nil_iff.1 hnil⟩
  · rename_i hsome
    refine .inr ⟨rfl, ?_⟩
    by_contra hright
    exact hsome (violations_eq_nil_iff.2 (not_exists.1 hright))

end Reported

/-! ## Those who read a configuration later -/

section Readers

variable {c : Config}

/-- There is no address to listen at exactly if the host is wrong. -/
theorem socketAddress?_eq_none_iff :
    c.listener.socketAddress? = none ↔ c.Wrong .bindHost := Option.map_eq_none_iff

/-- The capacity is refused exactly if it is wrong. -/
theorem checkCapacity_eq_error_iff :
    (∃ e, checkCapacity c.listener.maxHandshakes.toNat = .error e) ↔ c.Wrong .maxHandshakes := by
  rw [wrong_maxHandshakes_iff, checkCapacity]
  split
  · rename_i h
    exact iff_of_true ⟨_, rfl⟩ h
  · rename_i h
    exact iff_of_false (fun ⟨e, he⟩ => by cases he) h

/-- The address of metrics is refused exactly if it is wrong, which it never is if it is not used. -/
theorem metricsAddress_eq_error_iff :
    (∃ e, Server.metricsAddress c.observability = .error e) ↔ c.Wrong .metricsAddress := by
  show _ ↔ _ ∧ _
  unfold Server.metricsAddress
  split
  · rename_i henabled
    rw [and_iff_right henabled]
    cases haddress : c.observability.metricsSocketAddress? with
    | none => exact iff_of_true ⟨_, rfl⟩ haddress
    | some address =>
      refine iff_of_false (fun ⟨e, he⟩ => by cases he) fun hnone => ?_
      cases haddress.symm.trans hnone
  · rename_i hdisabled
    exact iff_of_false (fun ⟨e, he⟩ => by cases he) fun h => hdisabled h.1

/-- The limit for draining is always there: it is far from the end of what can be counted. -/
theorem exists_drainLimit (c : Config) :
    ∃ limit, Server.drainLimit? c = some limit ∧
      limit.toNanos = c.listener.handshakeTimeoutMs.toNat * 1000000 + nanosPerSecond := by
  have htimeout : c.listener.handshakeTimeout.toNanos =
      c.listener.handshakeTimeoutMs.toNat * 1000000 := Span.toNanos_ofMillis _
  have hsecond : (Span.ofSeconds 1).toNanos = nanosPerSecond := rfl
  have hfits : (Server.drainLimit? c).isSome = true := by
    rw [Server.drainLimit?, Span.isSome_add?, htimeout, hsecond]
    have hms := c.listener.handshakeTimeoutMs.toNat_lt
    simp only [UInt64.size, nanosPerSecond]
    omega
  obtain ⟨limit, hlimit⟩ := Option.isSome_iff_exists.1 hfits
  refine ⟨limit, hlimit, ?_⟩
  rw [Span.toNanos_add? hlimit, htimeout, hsecond]

/-! ## Configurations that have passed -/

/-- What is certain of a configuration that has passed the check. -/
structure Ready (c : Config) : Prop where
  /-- Binding a listener asks for one address, and comes to what the operating system answers. -/
  binds : ∃ address, c.listener.socketAddress? = some address ∧ ∀ identity system,
    (∀ e, system address = .error e →
      Listener.bind identity c.listener system = .error (.bind e)) ∧
    ∀ bound, system address = .ok bound → ∃ l, Listener.bind identity c.listener system = .ok l ∧
      l.settings.address = bound ∧ l.settings.capacity = c.listener.maxHandshakes.toNat ∧
      l.pool = { available := c.listener.maxHandshakes.toNat }
  /-- The pool holds its tokens, and they can be claimed all at once. -/
  capacity : 0 < c.listener.maxHandshakes.toNat ∧
    c.listener.maxHandshakes.toNat ≤ TokenPool.largest ∧
    c.listener.maxHandshakes.toNat ≤ TokenPool.largestClaim
  /-- A second can be added to the deadline. -/
  drainLimit : ∃ limit, Server.drainLimit? c = some limit ∧
    limit.toNanos = c.listener.handshakeTimeoutMs.toNat * 1000000 + nanosPerSecond
  /-- Only a key file or the operating system keeps a gate from starting. -/
  starts : ∀ S keyFile chance system e, (Server.start S c keyFile chance system).2 = .error e →
    (∃ cause, e = .key cause) ∨ ∃ address cause, c.listener.socketAddress? = some address ∧
      system address = .error cause ∧ e = .failure (.bind cause)

theorem capacity_of_right (hright : ¬ c.Wrong .maxHandshakes) :
    0 < c.listener.maxHandshakes.toNat ∧ c.listener.maxHandshakes.toNat ≤ TokenPool.largest ∧
      c.listener.maxHandshakes.toNat ≤ TokenPool.largestClaim := by
  have hbounds : ¬ (_ ∨ _ ∨ _) := hright
  omega

theorem checkCapacity_of_right (hright : ¬ c.Wrong .maxHandshakes) :
    checkCapacity c.listener.maxHandshakes.toNat = .ok () := by
  rw [wrong_maxHandshakes_iff] at hright
  exact if_neg hright

/-- With a right host and a right capacity the operating system has the last word on binding. -/
theorem binds_of_right (hhost : ¬ c.Wrong .bindHost) (hcapacity : ¬ c.Wrong .maxHandshakes) :
    ∃ address, c.listener.socketAddress? = some address ∧ ∀ identity system,
      (∀ e, system address = .error e →
        Listener.bind identity c.listener system = .error (.bind e)) ∧
      ∀ bound, system address = .ok bound → ∃ l, Listener.bind identity c.listener system = .ok l ∧
        l.settings.address = bound ∧ l.settings.capacity = c.listener.maxHandshakes.toNat ∧
        l.pool = { available := c.listener.maxHandshakes.toNat } := by
  rw [← socketAddress?_eq_none_iff] at hhost
  obtain ⟨address, haddress⟩ := Option.ne_none_iff_exists'.1 hhost
  have hchecked := checkCapacity_of_right hcapacity
  refine ⟨address, haddress, fun identity system => ⟨fun e he => ?_, fun bound hbound => ?_⟩⟩
  · simp only [Listener.bind, haddress, hchecked, Listener.ofRaw, he]
  · simp only [Listener.bind, haddress, hchecked, Listener.ofRaw, hbound]
    exact ⟨_, rfl, rfl, rfl, rfl⟩

/-- What keeps a gate from starting once nothing is wrong with its configuration. -/
theorem starts_of_right (hright : ∀ f, ¬ c.Wrong f) {S : Suite} {keyFile : String → FileContent}
    {chance : Chance} {system : SocketAddress → Except SystemError SocketAddress}
    {e : CommandError} (failed : (Server.start S c keyFile chance system).2 = .error e) :
    (∃ cause, e = .key cause) ∨ ∃ address cause, c.listener.socketAddress? = some address ∧
      system address = .error cause ∧ e = .failure (.bind cause) := by
  unfold Server.start at failed
  split at failed
  · -- no identity
    rename_i e' hidentity
    obtain rfl : e' = e := Except.error.inj failed
    unfold Server.identity at hidentity
    split at hidentity
    · split at hidentity <;> cases hidentity
      exact .inl ⟨_, rfl⟩
    · cases hidentity
  rename_i identity event chance' _
  simp only at failed
  split at failed
  · -- no address for metrics
    rename_i e' hmetrics
    exact absurd (metricsAddress_eq_error_iff.1 ⟨e', hmetrics⟩) (hright .metricsAddress)
  obtain ⟨address, haddress, hbind⟩ := binds_of_right (hright .bindHost) (hright .maxHandshakes)
  obtain ⟨hfail, hok⟩ := hbind identity system
  split at failed
  · -- no listener
    rename_i f hbound
    obtain rfl : CommandError.failure f = e := Except.error.inj failed
    cases hsystem : system address with
    | error cause =>
      rw [hfail cause hsystem] at hbound
      obtain rfl : Failure.bind cause = f := Except.error.inj hbound
      exact .inr ⟨address, cause, haddress, hsystem, rfl⟩
    | ok bound =>
      obtain ⟨l, hl, -⟩ := hok bound hsystem
      rw [hl] at hbound
      cases hbound
  · cases failed

theorem ready_of_right (hright : ∀ f, ¬ c.Wrong f) : Ready c where
  binds := binds_of_right (hright .bindHost) (hright .maxHandshakes)
  capacity := capacity_of_right (hright .maxHandshakes)
  drainLimit := exists_drainLimit c
  starts _ _ _ _ _ failed := starts_of_right hright failed

end Readers

/-- **Whoever reads a configuration agrees with its check.**  The check reports just the fields that
    are wrong, each once and in their order, and passes a configuration exactly if there are none;
    the host, the capacity and the address of metrics are refused where they are read exactly if the
    check reports them; and a configuration that has passed is fit for all that follows. -/
theorem readers_agree (c : Config) :
    c.violations.map Violation.field = (Field.all.filter (c.Wrong ·)).map Field.name ∧
      (c.checked = .ok c ↔ ∀ f, ¬ c.Wrong f) ∧
      (c.listener.socketAddress? = none ↔
        Field.bindHost.name ∈ c.violations.map Violation.field) ∧
      (∀ ip, IpAddress.ofText? c.listener.bindHost = some ip →
        c.listener.socketAddress? = some { ip, port := c.listener.port }) ∧
      ((∃ e, checkCapacity c.listener.maxHandshakes.toNat = .error e) ↔
        Field.maxHandshakes.name ∈ c.violations.map Violation.field) ∧
      ((∃ e, Server.metricsAddress c.observability = .error e) ↔
        Field.metricsAddress.name ∈ c.violations.map Violation.field) ∧
      (c.checked = .ok c → Ready c) := by
  have hpassed : c.checked = .ok c ↔ ∀ f, ¬ c.Wrong f := by
    rcases checked_spec c with ⟨hok, hright⟩ | ⟨herror, f, hwrong⟩
    · exact iff_of_true hok hright
    · refine iff_of_false (fun hok => ?_) fun hright => hright f hwrong
      cases herror.symm.trans hok
  refine ⟨field_violations c, hpassed, ?_, fun ip hip => ?_, ?_, ?_, fun h => ?_⟩
  · rw [mem_field_violations, socketAddress?_eq_none_iff]
  · rw [ListenerSection.socketAddress?, hip]
    rfl
  · rw [mem_field_violations, checkCapacity_eq_error_iff]
  · rw [mem_field_violations, metricsAddress_eq_error_iff]
  · exact ready_of_right (hpassed.1 h)

/-- The configuration without a file has passed. -/
theorem readers_agree_default : Ready {} := by
  have passed : checked {} = .ok {} := by decide +kernel
  exact (readers_agree {}).2.2.2.2.2.2 passed

end Config

end Gatehouse
