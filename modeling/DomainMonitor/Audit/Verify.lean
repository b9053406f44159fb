import DomainMonitor.Audit.Store

/-! # Verifying the audit log from its rows (`internal/audit/store.go`)

    Nothing in the source recomputes a hash; whoever does has the columns as
    PostgreSQL returns them: times in microseconds and documents in the normal form
    of `jsonb`. The hash was taken over the values before they were stored.
-/

namespace DomainMonitor.Audit

/-- The document is hashed as it is hashed when it is read back. -/
def Survives (lib : Library) (v : Json.Value) : Prop :=
  ∀ w ∈ storeDocument lib v,
    Json.text Json.compact (Json.escapeHTML w) = Json.text Json.compact (Json.escapeHTML v)

/-- The time is a whole number of microseconds, and the documents survive. -/
structure AppendCall.Survives (lib : Library) (call : AppendCall) : Prop where
  clock : call.goNow % microsecond = 0
  before : Audit.Survives lib call.entry.before
  after : Audit.Survives lib call.entry.after
  metadata : Audit.Survives lib call.entry.metadata

/-! ### The hashed document determines its fields -/

theorem string_formatNano_inj {t u : Int}
    (h : Json.text Json.compact (jsonString (Rfc3339.formatNano t)) =
      Json.text Json.compact (jsonString (Rfc3339.formatNano u))) : t = u := by
  have hplain : ∀ t, Marshal.encode (Rfc3339.formatNano t) = Rfc3339.formatNano t := by
    intro t
    apply Marshal.encode_plain
    intro b hb
    rcases Rfc3339.mem_formatNano hb with hpunctuation | ⟨d, hd, rfl⟩
    · have hall : ∀ b ∈ ([45, 46, 58, 84, 90] : List UInt8), Marshal.isPlain b = true := by
        decide +kernel
      exact hall b hpunctuation
    · have hall : ∀ d < 16, Marshal.isPlain (Encoding.hexDigit d) = true := by decide
      exact hall d hd
  have hraw : Marshal.encode (Rfc3339.formatNano t) = Marshal.encode (Rfc3339.formatNano u) :=
    Json.quote_inj h
  rw [hplain, hplain] at hraw
  exact Rfc3339.formatNano_inj hraw

/-- The hashed texts are equal when the texts of all their fields are. -/
theorem canonical_eq_iff {f g : Fields} : canonical f = canonical g ↔
    (hashPayload f).map (fun m => Json.text Json.compact m.2) =
      (hashPayload g).map (fun m => Json.text Json.compact m.2) := by
  have hkeys : ((hashPayload f).map (fun m => (Marshal.string m.1, m.2))).map Prod.fst =
      ((hashPayload g).map (fun m => (Marshal.string m.1, m.2))).map Prod.fst := by
    simp only [hashPayload, List.map_cons, List.map_nil]
  unfold canonical
  rw [Json.text_obj_inj hkeys, List.map_map, List.map_map]
  rfl

/-- The stored columns are hashed as the original ones exactly when time and documents
    survive. -/
theorem canonical_store_iff {lib : Library} {call : AppendCall} {visible : List Row} {g : Fields}
    (h : store lib (call.fields visible) = some g) :
    canonical g = canonical (call.fields visible) ↔ call.Survives lib := by
  obtain ⟨entry, hentry, hg⟩ := Option.map_eq_some_iff.mp h
  simp only [storeEntry, Option.bind_eq_bind, Option.bind_eq_some_iff] at hentry
  obtain ⟨before, hbefore, after, hafter, metadata, hmetadata, hentry⟩ := hentry
  split at hentry
  case isFalse => cases hentry
  cases hentry
  cases hg
  have hbefore : storeDocument lib call.entry.before = some before := hbefore
  have hafter : storeDocument lib call.entry.after = some after := hafter
  have hmetadata : storeDocument lib call.entry.metadata = some metadata := hmetadata
  rw [canonical_eq_iff]
  simp only [hashPayload, List.map_cons, List.map_nil, List.cons.injEq, true_and, and_true]
  constructor
  · rintro ⟨hb, ha, hm, ht⟩
    have htime : timestamptz call.goNow = call.goNow := string_formatNano_inj ht
    refine ⟨?_, ?_, ?_, ?_⟩
    · unfold timestamptz at htime
      omega
    · intro w hw
      rw [hbefore] at hw
      cases hw
      exact hb
    · intro w hw
      rw [hafter] at hw
      cases hw
      exact ha
    · intro w hw
      rw [hmetadata] at hw
      cases hw
      exact hm
  · intro hs
    have htime : timestamptz call.goNow = call.goNow := by
      have := hs.clock
      unfold timestamptz
      omega
    refine ⟨hs.before _ hbefore, hs.after _ hafter, hs.metadata _ hmetadata, ?_⟩
    show Json.text _ (jsonString (Rfc3339.formatNano (timestamptz call.goNow))) = _
    rw [htime]
    rfl

/-! ### Recomputing a hash -/

/-- **Verification**: unless the two hashed texts collide under SHA-256, the hash
    recomputed from a stored row is its `entry_hash` if and only if the clock read a
    whole microsecond and the documents of the entry are hashed alike before and after
    they are stored. -/
theorem audit_verifiable_iff {lib : Library} {call : AppendCall} {visible : List Row} {row : Row}
    (h : appendTx lib call visible = some row)
    (hcollision : lib.sha256 (canonical row.fields) = lib.sha256 (canonical (call.fields visible)) →
      canonical row.fields = canonical (call.fields visible)) :
    row.fields.hash lib = row.entryHash ↔ call.Survives lib := by
  obtain ⟨-, hhash, hstore, -, -⟩ := appendTx_spec h
  rw [← canonical_store_iff hstore, hhash]
  constructor
  · exact hcollision
  · intro htexts
    unfold Fields.hash
    rw [htexts]

/-- An entry written at a whole microsecond, with a document `jsonb` leaves as it
    is. -/
theorem audit_verifiable_microsecond :
    ∃ row, appendTx sampleLibrary (sampleCall 1 1000) [] = some row ∧
      row.fields.hash sampleLibrary = row.entryHash := by
  have hsurvives : Audit.Survives sampleLibrary .null := by
    intro w hw
    have hnull : storeDocument sampleLibrary .null = some .null := by
      have hvalid : Utf8.Valid (Json.text Json.compact .null) := by decide +kernel
      rw [storeDocument, if_pos hvalid, Jsonb.normalize]
    rw [hnull] at hw
    cases hw
    rfl
  have hsome : (appendTx sampleLibrary (sampleCall 1 1000) []).isSome = true := by decide +kernel
  obtain ⟨row, hrow⟩ := Option.isSome_iff_exists.mp hsome
  have hcall : (sampleCall 1 1000).Survives sampleLibrary :=
    ⟨by decide, hsurvives, hsurvives, hsurvives⟩
  refine ⟨row, hrow, (audit_verifiable_iff hrow ?_).mpr hcall⟩
  intro _
  exact (canonical_store_iff (appendTx_spec hrow).2.2.1).mpr hcall

/-- The clock reads one nanosecond: the row keeps zero microseconds, and the hash over
    them is another one. -/
theorem nanosecond_not_verifiable :
    ∃ row, appendTx sampleLibrary (sampleCall 1 1) [] = some row ∧
      row.fields.hash sampleLibrary ≠ row.entryHash := by
  have hsome : ((appendTx sampleLibrary (sampleCall 1 1) []).filter (fun row =>
      row.fields.hash sampleLibrary ≠ row.entryHash)).isSome = true := by decide +kernel
  obtain ⟨row, hrow⟩ := Option.isSome_iff_exists.mp hsome
  obtain ⟨hrow, hne⟩ := Option.filter_eq_some_iff.mp hrow
  exact ⟨row, hrow, of_decide_eq_true hne⟩

end DomainMonitor.Audit
