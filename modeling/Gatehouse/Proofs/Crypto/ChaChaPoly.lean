import Gatehouse.Crypto.ChaChaPoly

/-!
# Opening is the inverse of sealing

ChaCha20-Poly1305 opens exactly what it seals.  Both directions come from the same two facts: a
sealed text falls apart at its last sixteen bytes, and masking twice gives a text back.  Together
with the lengths of sealed texts and the nonces of counters that is `open_inverts_seal`.
-/

namespace Gatehouse.ChaChaPoly

/-- Sealing in one equation: the masked text with its tag, as long as the text fits. -/
theorem sealText_eq_some_iff {key : Key} {counter : UInt64} {known text c : Bytes} :
    sealText key counter known text = some c ↔
      fits text.length = true ∧
        c = ChaCha20.mask key (nonce counter) 1 text
          ++ (tag key counter known (ChaCha20.mask key (nonce counter) 1 text)).bytes := by
  unfold sealText
  rw [Option.ite_none_right_eq_some]
  constructor
  · rintro ⟨hfits, hc⟩
    exact ⟨hfits, (Option.some.inj hc).symm⟩
  · rintro ⟨hfits, rfl⟩
    exact ⟨hfits, rfl⟩

/-- A masked text and its own tag, put together, fall apart into the two again. -/
theorem openText_append_tag (key : Key) (counter : UInt64) (known masked : Bytes) :
    openText key counter known (masked ++ (tag key counter known masked).bytes) =
      if fits masked.length then some (ChaCha20.mask key (nonce counter) 1 masked) else none := by
  have htag := (tag key counter known masked).length_eq
  have hlen :
      (masked ++ (tag key counter known masked).bytes).length - tagSize = masked.length := by
    simp only [List.length_append, htag, tagSize]; omega
  unfold openText
  rw [hlen, List.take_left, List.drop_left]
  have hlong : ¬ (masked ++ (tag key counter known masked).bytes).length < tagSize := by
    simp only [List.length_append, htag, tagSize]; omega
  rw [if_neg hlong]
  simp only [and_true]

/-- A text opens from a sealed text exactly if sealing the text gives that sealed text. -/
theorem openText_eq_some_iff {key : Key} {counter : UInt64} {known text c : Bytes} :
    openText key counter known c = some text ↔ sealText key counter known text = some c := by
  constructor
  · intro h
    have hlen := length_of_openText h
    unfold openText at h
    split at h
    · cases h
    · obtain ⟨⟨hfits, htag⟩, h⟩ := Option.ite_none_right_eq_some.1 h
      have htext := Option.some.inj h
      -- masking the text again gives the masked bytes that were received
      have hmask : ChaCha20.mask key (nonce counter) 1 text = c.take (c.length - tagSize) := by
        rw [← htext, ChaCha20.mask_mask]
      have hsize : text.length = (c.take (c.length - tagSize)).length := by
        rw [← hmask, ChaCha20.length_mask]
      rw [sealText_eq_some_iff, hmask, ← htag, List.take_append_drop, hsize]
      exact ⟨hfits, rfl⟩
  · intro h
    obtain ⟨hfits, rfl⟩ := sealText_eq_some_iff.1 h
    rw [openText_append_tag, ChaCha20.length_mask, if_pos hfits, ChaCha20.mask_mask]

/-- Just the texts within the block counter can be sealed. -/
theorem isSome_sealText (key : Key) (counter : UInt64) (known text : Bytes) :
    (sealText key counter known text).isSome = fits text.length := by
  unfold sealText
  cases fits text.length <;> rfl

/-- The counter can be read off its nonce. -/
theorem nonce_injective {n n' : UInt64} (h : nonce n = nonce n') : n = n' := by
  have digits : Bytes.ofNatLE 8 n.toNat = Bytes.ofNatLE 8 n'.toNat :=
    List.append_cancel_left (congrArg Octets.bytes h)
  have value : ∀ n : UInt64, Bytes.toNatLE (Bytes.ofNatLE 8 n.toNat) = n.toNat := by
    intro n
    rw [Bytes.toNatLE_ofNatLE]
    exact Nat.mod_eq_of_lt n.toNat_lt
  rw [← UInt64.toNat_inj, ← value n, digits, value n']

/-- **Opening is the inverse of sealing.**  Under one key and counter, with the same known data: a
    text is what a sealed text opens to exactly if the sealed text is what sealing the text gives.
    Every text within the block counter has a sealed text, and that opens; whatever opens is the
    sealed text of something, by a tag longer than that, so that nothing shorter than a tag opens.
    And no two counters share a nonce. -/
theorem open_inverts_seal :
    (∀ (key : Key) (counter : UInt64) (known : Bytes),
      (∀ text c, openText key counter known c = some text ↔
        sealText key counter known text = some c) ∧
      (∀ text, fits text.length = true ↔
        ∃ c, sealText key counter known text = some c ∧
          openText key counter known c = some text) ∧
      (∀ c, (openText key counter known c).isSome = true ↔
        ∃ text, sealText key counter known text = some c) ∧
      (∀ text c, openText key counter known c = some text → c.length = text.length + 16) ∧
      ∀ c, c.length < 16 → openText key counter known c = none) ∧
    ∀ n n', nonce n = nonce n' ↔ n = n' := by
  refine ⟨fun key counter known => ⟨?_, ?_, ?_, ?_, ?_⟩, fun n n' => ⟨nonce_injective, ?_⟩⟩
  · exact fun text c => openText_eq_some_iff
  · intro text
    rw [← isSome_sealText key counter known, Option.isSome_iff_exists]
    exact exists_congr fun c => (and_iff_left_of_imp openText_eq_some_iff.2).symm
  · intro c
    rw [Option.isSome_iff_exists]
    exact exists_congr fun text => openText_eq_some_iff
  · exact fun text c => length_of_openText
  · intro c short
    rw [Option.eq_none_iff_forall_ne_some]
    intro text opens
    have := length_of_openText opens
    omega
  · rintro rfl
    rfl

/-- A text of seven bytes is sealed, its sealed text opens, and without its last eight bytes that
    is shorter than a tag. -/
theorem open_inverts_seal_sample :
    let key : Key := Octets.replicate 32 9
    let text : Bytes := [112, 97, 121, 108, 111, 97, 100]
    let c : Bytes :=
      [210, 67, 130, 15, 152, 174, 57, 165, 134, 99, 48, 63, 113, 186, 149, 101, 191, 46, 242, 56,
        50, 101, 151]
    sealText key 3 [97, 100] text = some c ∧ openText key 3 [97, 100] c = some text ∧
      c.length = text.length + 16 ∧ openText key 3 [97, 100] (c.take 15) = none ∧
      nonce 3 ≠ nonce 4 := by
  intro key text c
  have sealed : sealText key 3 [97, 100] text = some c := by decide +kernel
  obtain ⟨inverse, nonces⟩ := open_inverts_seal
  obtain ⟨opens, _, _, lengths, short⟩ := inverse key 3 [97, 100]
  have opened := (opens text c).2 sealed
  refine ⟨sealed, opened, lengths text c opened, short (c.take 15) (by decide), ?_⟩
  exact fun same => absurd ((nonces 3 4).1 same) (by decide)

end Gatehouse.ChaChaPoly
