import DomainMonitor.Monitor.Complete

/-! # Storing evidence

    The evidence loops of `CompleteRun` insert one row per observation. Such a
    loop goes through exactly when each observation meets the constraints of its
    table and no two share a key; here this is proved once for loops of unique
    inserts and then for `PersistDNSResult`.
-/

namespace DomainMonitor.Monitor

/-! ### Single rows -/

/-- Trimming an optional text does not make it storable. -/
theorem nullableString_storable (value : GoString) :
    (∀ text ∈ nullableString value, Utf8.Storable text) ↔ Utf8.Storable value := by
  rw [← Utf8.storable_trimSpace value]
  unfold nullableString
  by_cases hempty : Utf8.trimSpace value = []
  · rw [if_pos hempty, hempty]
    simp [Utf8.Storable, Utf8.Valid]
  · rw [if_neg hempty]
    simp

/-- A row the table accepts. -/
def Insertable {γ : Type} (Checks : γ → Prop) (texts : γ → List (Option GoString))
    (columns : γ) : Prop :=
  Checks columns ∧ ∀ t ∈ texts columns, ∀ s ∈ t, Utf8.Storable s

theorem Row.insert?_eq_some {γ : Type} {Checks : γ → Prop} [DecidablePred Checks]
    {texts : γ → List (Option GoString)} {columns : γ} {row : Row Checks texts} :
    Row.insert? Checks texts columns = some row ↔ row.columns = columns := by
  unfold Row.insert?
  constructor
  · intro h
    split at h
    · cases h
      rfl
    · cases h
  · rintro rfl
    rw [dif_pos ⟨row.checks, row.storable⟩]

theorem Row.exists_columns {γ : Type} {Checks : γ → Prop}
    {texts : γ → List (Option GoString)} {columns : γ} :
    (∃ row : Row Checks texts, row.columns = columns) ↔ Insertable Checks texts columns := by
  constructor
  · rintro ⟨row, rfl⟩
    exact ⟨row.checks, row.storable⟩
  · intro h
    exact ⟨⟨columns, h.1, h.2⟩, rfl⟩

theorem insertUnique_eq_some {κ ρ : Type} [DecidableEq κ] {key : ρ → κ} {rows rows' : List ρ}
    {row : ρ} :
    insertUnique key rows row = some rows' ↔ key row ∉ rows.map key ∧ rows' = rows ++ [row] := by
  unfold insertUnique
  by_cases h : key row ∈ rows.map key
  · rw [if_pos h]
    simp [h]
  · rw [if_neg h]
    simp only [Option.some.injEq, h, not_false_eq_true, true_and]
    exact eq_comm

/-! ### Loops of unique inserts -/

section Loop

variable {α ρ κ : Type} {step : List ρ → α → Except CompleteError (List ρ)} {key : ρ → κ}
  {keyOf : α → κ} {Ok : α → Prop}

/-- `step` inserts one row for `a`, under the key `keyOf a`, and does so exactly
    when `a` is acceptable and its key is free. -/
structure UniqueInsert (step : List ρ → α → Except CompleteError (List ρ)) (key : ρ → κ)
    (keyOf : α → κ) (Ok : α → Prop) : Prop where
  keys : ∀ rows a rows', step rows a = .ok rows' → rows'.map key = rows.map key ++ [keyOf a]
  iff : ∀ rows a, (∃ rows', step rows a = .ok rows') ↔ Ok a ∧ keyOf a ∉ rows.map key

/-- A loop of unique inserts goes through exactly when every observation is
    acceptable and the keys, old and new, are distinct. -/
theorem UniqueInsert.foldlM_iff (h : UniqueInsert step key keyOf Ok) (l : List α) :
    ∀ rows, (rows.map key).Nodup → ((∃ rows', l.foldlM step rows = .ok rows') ↔
      (∀ a ∈ l, Ok a) ∧ (rows.map key ++ l.map keyOf).Nodup) := by
  induction l with
  | nil =>
    intro rows hrows
    constructor
    · intro _
      exact ⟨fun a ha => absurd ha List.not_mem_nil, by simpa using hrows⟩
    · intro _
      exact ⟨rows, rfl⟩
  | cons a l ih =>
    intro rows hrows
    have hassoc : rows.map key ++ (a :: l).map keyOf =
        (rows.map key ++ [keyOf a]) ++ l.map keyOf := by simp
    rw [hassoc]
    constructor
    · rintro ⟨rows', hfold⟩
      rw [List.foldlM_cons, except_bind_ok] at hfold
      obtain ⟨middle, hstep, hfold⟩ := hfold
      obtain ⟨hok, hfresh⟩ := (h.iff rows a).mp ⟨middle, hstep⟩
      have hkeys := h.keys rows a middle hstep
      have hmiddle : (middle.map key).Nodup := by
        rw [hkeys]
        exact hrows.append (List.nodup_singleton _)
          (List.disjoint_singleton.mpr hfresh)
      obtain ⟨hall, hnodup⟩ := (ih middle hmiddle).mp ⟨rows', hfold⟩
      rw [hkeys] at hnodup
      exact ⟨List.forall_mem_cons.mpr ⟨hok, hall⟩, hnodup⟩
    · rintro ⟨hall, hnodup⟩
      obtain ⟨hok, hall⟩ := List.forall_mem_cons.mp hall
      have hprefix := hnodup.of_append_left
      have hfresh : keyOf a ∉ rows.map key :=
        List.disjoint_singleton.mp (List.disjoint_of_nodup_append hprefix)
      obtain ⟨middle, hstep⟩ := (h.iff rows a).mpr ⟨hok, hfresh⟩
      have hkeys := h.keys rows a middle hstep
      rw [← hkeys] at hnodup hprefix
      obtain ⟨rows', hfold⟩ := (ih middle hprefix).mpr ⟨hall, hnodup⟩
      refine ⟨rows', ?_⟩
      rw [List.foldlM_cons, except_bind_ok]
      exact ⟨middle, hstep, hfold⟩

/-- Inserting one row into a table with a unique key. -/
theorem insertRow_uniqueInsert {γ : Type} [DecidableEq κ] (Checks : γ → Prop)
    [DecidablePred Checks] (texts : γ → List (Option GoString)) (columns : α → γ) (key : γ → κ)
    (error : CompleteError) :
    UniqueInsert (fun (rows : List (Row Checks texts)) a => do
        let row ← orError error (Row.insert? Checks texts (columns a))
        orError error (insertUnique (fun row : Row Checks texts => key row.columns) rows row))
      (fun row => key row.columns) (fun a => key (columns a))
      (fun a => Insertable Checks texts (columns a)) := by
  have hspec : ∀ (rows : List (Row Checks texts)) a rows',
      (do let row ← orError error (Row.insert? Checks texts (columns a))
          orError error
            (insertUnique (fun row : Row Checks texts => key row.columns) rows row)) = .ok rows' ↔
      ∃ row : Row Checks texts, row.columns = columns a ∧
        key (columns a) ∉ rows.map (fun row : Row Checks texts => key row.columns) ∧
        rows' = rows ++ [row] := by
    intro rows a rows'
    simp only [except_bind_ok, orError_ok, Row.insert?_eq_some, insertUnique_eq_some]
    constructor
    · rintro ⟨row, hrow, hfresh, heq⟩
      rw [hrow] at hfresh
      exact ⟨row, hrow, hfresh, heq⟩
    · rintro ⟨row, hrow, hfresh, heq⟩
      rw [← hrow] at hfresh
      exact ⟨row, hrow, hfresh, heq⟩
  constructor
  · intro rows a rows' hstep
    obtain ⟨row, hrow, -, rfl⟩ := (hspec rows a rows').mp hstep
    rw [List.map_append, List.map_singleton, hrow]
  · intro rows a
    constructor
    · rintro ⟨rows', hstep⟩
      obtain ⟨row, hrow, hfresh, -⟩ := (hspec rows a rows').mp hstep
      exact ⟨Row.exists_columns.mp ⟨row, hrow⟩, hfresh⟩
    · rintro ⟨hinsertable, hfresh⟩
      obtain ⟨row, hrow⟩ := Row.exists_columns.mpr hinsertable
      exact ⟨_, (hspec rows a _).mpr ⟨row, hrow, hfresh, rfl⟩⟩

end Loop

/-! ### DNS evidence -/

/-- The parameters of the `INSERT INTO dns_answers` statements of a result. -/
def dnsAnswerRows (result : Dnscheck.Result) : List DNSAnswerColumns :=
  result.answers.zipIdx.map (fun (answer, order) => dnsAnswerColumns order answer)

theorem persistDNSAnswers_iff (answers : List Dnscheck.Answer) :
    ∀ rows : List DNSAnswerRow,
      rows.map (·.columns.answerOrder) = (List.range rows.length).map Int.ofNat →
      ((∃ rows', persistDNSAnswers answers rows = .ok rows') ↔
        ∀ c ∈ (answers.zipIdx rows.length).map (fun (answer, order) => dnsAnswerColumns order answer),
          Insertable DNSAnswerColumns.Checks DNSAnswerColumns.texts c) := by
  induction answers with
  | nil =>
    intro rows _
    constructor
    · intro _ c hc
      cases hc
    · intro _
      exact ⟨rows, rfl⟩
  | cons answer answers ih =>
    intro rows horders
    have hfresh : ∀ row : DNSAnswerRow, row.columns = dnsAnswerColumns rows.length answer →
        insertUnique (·.columns.answerOrder) rows row = some (rows ++ [row]) := by
      intro row hrow
      refine insertUnique_eq_some.mpr ⟨?_, rfl⟩
      rw [hrow, horders]
      intro hmem
      obtain ⟨order, horder, heq⟩ := List.mem_map.mp hmem
      have hlt := List.mem_range.mp horder
      have : order = rows.length := Int.ofNat.inj heq
      omega
    have hnext : ∀ row : DNSAnswerRow, row.columns = dnsAnswerColumns rows.length answer →
        (rows ++ [row]).map (·.columns.answerOrder) =
          (List.range (rows ++ [row]).length).map Int.ofNat := by
      intro row hrow
      rw [List.map_append, horders, List.length_append, List.length_singleton, List.range_succ,
        List.map_append, List.map_singleton, List.map_singleton, hrow]
      rfl
    rw [List.zipIdx_cons, List.map_cons, List.forall_mem_cons]
    constructor
    · rintro ⟨rows', hpersist⟩
      rw [persistDNSAnswers, except_bind_ok] at hpersist
      obtain ⟨row, hrow, hpersist⟩ := hpersist
      rw [orError_ok, Row.insert?_eq_some] at hrow
      rw [hfresh row hrow] at hpersist
      have hrest := (ih (rows ++ [row]) (hnext row hrow)).mp ⟨rows', hpersist⟩
      rw [List.length_append, List.length_singleton] at hrest
      exact ⟨Row.exists_columns.mp ⟨row, hrow⟩, hrest⟩
    · rintro ⟨hfirst, hrest⟩
      obtain ⟨row, hrow⟩ := Row.exists_columns.mpr hfirst
      have hlength : (rows ++ [row]).length = rows.length + 1 := by simp
      rw [← hlength] at hrest
      obtain ⟨rows', hpersist⟩ := (ih (rows ++ [row]) (hnext row hrow)).mpr hrest
      refine ⟨rows', ?_⟩
      rw [persistDNSAnswers, except_bind_ok]
      refine ⟨row, orError_ok.mpr (Row.insert?_eq_some.mpr hrow), ?_⟩
      rw [hfresh row hrow]
      exact hpersist

/-- What `PersistDNSResult` needs of one result, its key apart. -/
def DNSInsertable (result : Dnscheck.Result) : Prop :=
  Insertable DNSCheckColumns.Checks DNSCheckColumns.texts (dnsCheckColumns result) ∧
  ∀ c ∈ dnsAnswerRows result, Insertable DNSAnswerColumns.Checks DNSAnswerColumns.texts c

theorem persistDNSResult_uniqueInsert :
    UniqueInsert persistDNSResult (fun row : DNSCheckRow => row.row.columns.key)
      (fun result => (dnsCheckColumns result).key) DNSInsertable := by
  have hspec : ∀ rows result rows', persistDNSResult rows result = .ok rows' ↔
      ∃ row answers, row.columns = dnsCheckColumns result ∧
        (dnsCheckColumns result).key ∉ rows.map (·.row.columns.key) ∧
        persistDNSAnswers result.answers [] = .ok answers ∧ rows' = rows ++ [⟨row, answers⟩] := by
    intro rows result rows'
    simp only [persistDNSResult, except_bind_ok, orError_ok, Row.insert?_eq_some,
      insertUnique_eq_some]
    constructor
    · rintro ⟨row, hrow, _, ⟨hfresh, -⟩, answers, hanswers, hrows⟩
      cases hrows
      rw [hrow] at hfresh
      exact ⟨row, answers, hrow, hfresh, hanswers, rfl⟩
    · rintro ⟨row, answers, hrow, hfresh, hanswers, rfl⟩
      rw [← hrow] at hfresh
      exact ⟨row, hrow, _, ⟨hfresh, rfl⟩, answers, hanswers, rfl⟩
  constructor
  · intro rows result rows' hstep
    obtain ⟨row, answers, hrow, -, -, rfl⟩ := (hspec rows result rows').mp hstep
    rw [List.map_append, List.map_singleton, hrow]
  · intro rows result
    have hanswers := persistDNSAnswers_iff result.answers [] rfl
    constructor
    · rintro ⟨rows', hstep⟩
      obtain ⟨row, answers, hrow, hfresh, hpersist, -⟩ := (hspec rows result rows').mp hstep
      exact ⟨⟨Row.exists_columns.mp ⟨row, hrow⟩, hanswers.mp ⟨answers, hpersist⟩⟩, hfresh⟩
    · rintro ⟨⟨hcheck, hrest⟩, hfresh⟩
      obtain ⟨row, hrow⟩ := Row.exists_columns.mpr hcheck
      obtain ⟨answers, hpersist⟩ := hanswers.mpr hrest
      exact ⟨_, (hspec rows result _).mpr ⟨row, answers, hrow, hfresh, hpersist, rfl⟩⟩

/-- The loop over the DNS results goes through exactly when every result fits
    the tables and no two share resolver, type and attempt. -/
theorem persistDNSResults_iff (results : List Dnscheck.Result) :
    (∃ rows, results.foldlM persistDNSResult [] = .ok rows) ↔
      (∀ result ∈ results, DNSInsertable result) ∧
      (results.map (fun result => (dnsCheckColumns result).key)).Nodup := by
  have h := persistDNSResult_uniqueInsert.foldlM_iff results [] List.nodup_nil
  simpa using h

/-! ### HTTP evidence -/

/-- The attempts over both schemes, labelled as `CompleteRun` stores them. -/
def labelledAttempts (mode : ResolverMode) (origin : Httpcheck.OriginResult) :
    List (Scheme × ResolverMode × Httpcheck.Attempt) :=
  origin.https.map (fun a => (.https, mode, a)) ++ origin.http.map (fun a => (.http, mode, a))

/-- The attempts of a run in the order they are stored. -/
def httpAttempts (evidence : Evidence) : List (Scheme × ResolverMode × Httpcheck.Attempt) :=
  labelledAttempts .system evidence.http ++
    (evidence.pinnedHTTP.map (labelledAttempts .dohPinned)).getD []

/-- The key an attempt is stored under. -/
def attemptKey (a : Scheme × ResolverMode × Httpcheck.Attempt) : Scheme × ResolverMode × Int :=
  (httpCheckColumns a.1 a.2.1 a.2.2).key

/-- The four attempt loops are one loop over the attempts of the run. -/
theorem persistHTTPEvidence_eq (evidence : Evidence) :
    persistHTTPEvidence evidence =
      (httpAttempts evidence).foldlM (fun rows a => persistHTTPAttempt a.1 a.2.1 rows a.2.2) [] := by
  unfold persistHTTPEvidence httpAttempts labelledAttempts
  cases evidence.pinnedHTTP with
  | none => simp [List.foldlM_append, List.foldlM_map]
  | some pinned => simp [List.foldlM_append, List.foldlM_map]

/-- What `PersistHTTPAttempt` needs of one attempt, its key apart. -/
structure HTTPInsertable (a : Scheme × ResolverMode × Httpcheck.Attempt) : Prop where
  check : Insertable HTTPCheckColumns.Checks HTTPCheckColumns.texts
    (httpCheckColumns a.1 a.2.1 a.2.2)
  hopNumbers : (a.2.2.redirects.map (fun hop => (redirectHopColumns hop).hopNumber)).Nodup
  hops : ∀ hop ∈ a.2.2.redirects,
    Insertable RedirectHopColumns.Checks RedirectHopColumns.texts (redirectHopColumns hop)
  tls : ∀ result ∈ a.2.2.tls,
    Insertable TLSCheckColumns.Checks TLSCheckColumns.texts (tlsCheckColumns result)

theorem persistRedirectHops_eq (hops : List Httpcheck.RedirectHop) :
    ∀ rows, persistRedirectHops hops rows = hops.foldlM (fun rows hop => do
      let row ← orError .insertRedirectHop (Row.insert? RedirectHopColumns.Checks
        RedirectHopColumns.texts (redirectHopColumns hop))
      orError .insertRedirectHop (insertUnique (fun row => row.columns.hopNumber) rows row)) rows := by
  induction hops with
  | nil =>
    intro rows
    rfl
  | cons hop hops ih =>
    intro rows
    simp only [persistRedirectHops, List.foldlM_cons, ih, bind_assoc]

theorem persistRedirectHops_iff (hops : List Httpcheck.RedirectHop) :
    (∃ rows, persistRedirectHops hops [] = .ok rows) ↔
      (∀ hop ∈ hops,
        Insertable RedirectHopColumns.Checks RedirectHopColumns.texts (redirectHopColumns hop)) ∧
      (hops.map (fun hop => (redirectHopColumns hop).hopNumber)).Nodup := by
  simp only [persistRedirectHops_eq]
  have h := (insertRow_uniqueInsert RedirectHopColumns.Checks RedirectHopColumns.texts
    redirectHopColumns RedirectHopColumns.hopNumber .insertRedirectHop).foldlM_iff hops []
    List.nodup_nil
  simpa using h

theorem persistTLSCheck_iff (tls : Option Httpcheck.TLSResult) :
    (∃ row, persistTLSCheck tls = .ok row) ↔ ∀ result ∈ tls,
      Insertable TLSCheckColumns.Checks TLSCheckColumns.texts (tlsCheckColumns result) := by
  cases tls with
  | none => simp [persistTLSCheck]
  | some result =>
    simp only [persistTLSCheck, map_eq_pure_bind, except_bind_ok, orError_ok, Row.insert?_eq_some,
      Option.mem_some, forall_eq', ← Row.exists_columns]
    constructor
    · rintro ⟨_, row, hrow, -⟩
      exact ⟨row, hrow⟩
    · rintro ⟨row, hrow⟩
      exact ⟨_, row, hrow, rfl⟩

/-- The row, the hops and the TLS result of one attempt are stored together. -/
theorem persistHTTPAttempt_uniqueInsert :
    UniqueInsert (fun rows (a : Scheme × ResolverMode × Httpcheck.Attempt) =>
        persistHTTPAttempt a.1 a.2.1 rows a.2.2)
      (fun row : HTTPCheckRow => row.row.columns.key) attemptKey HTTPInsertable := by
  have hspec : ∀ rows (a : Scheme × ResolverMode × Httpcheck.Attempt) rows',
      persistHTTPAttempt a.1 a.2.1 rows a.2.2 = .ok rows' ↔
      ∃ row hops tls, row.columns = httpCheckColumns a.1 a.2.1 a.2.2 ∧
        attemptKey a ∉ rows.map (fun row : HTTPCheckRow => row.row.columns.key) ∧
        persistRedirectHops a.2.2.redirects [] = .ok hops ∧ persistTLSCheck a.2.2.tls = .ok tls ∧
        rows' = rows ++ [⟨row, hops, tls⟩] := by
    intro rows a rows'
    simp only [persistHTTPAttempt, except_bind_ok, orError_ok, Row.insert?_eq_some,
      insertUnique_eq_some, attemptKey]
    constructor
    · rintro ⟨row, hrow, _, ⟨hfresh, -⟩, hops, hhops, tls, htls, hrows⟩
      cases hrows
      rw [hrow] at hfresh
      exact ⟨row, hops, tls, hrow, hfresh, hhops, htls, rfl⟩
    · rintro ⟨row, hops, tls, hrow, hfresh, hhops, htls, rfl⟩
      rw [← hrow] at hfresh
      exact ⟨row, hrow, _, ⟨hfresh, rfl⟩, hops, hhops, tls, htls, rfl⟩
  constructor
  · intro rows a rows' hstep
    obtain ⟨row, hops, tls, hrow, -, -, -, rfl⟩ := (hspec rows a rows').mp hstep
    rw [List.map_append, List.map_singleton, hrow]
    rfl
  · intro rows a
    constructor
    · rintro ⟨rows', hstep⟩
      obtain ⟨row, hops, tls, hrow, hfresh, hhops, htls, -⟩ := (hspec rows a rows').mp hstep
      obtain ⟨hinsertable, hnumbers⟩ := (persistRedirectHops_iff _).mp ⟨hops, hhops⟩
      exact ⟨⟨Row.exists_columns.mp ⟨row, hrow⟩, hnumbers, hinsertable,
        (persistTLSCheck_iff _).mp ⟨tls, htls⟩⟩, hfresh⟩
    · rintro ⟨h, hfresh⟩
      obtain ⟨row, hrow⟩ := Row.exists_columns.mpr h.check
      obtain ⟨hops, hhops⟩ := (persistRedirectHops_iff _).mpr ⟨h.hops, h.hopNumbers⟩
      obtain ⟨tls, htls⟩ := (persistTLSCheck_iff _).mpr h.tls
      exact ⟨_, (hspec rows a _).mpr ⟨row, hops, tls, hrow, hfresh, hhops, htls, rfl⟩⟩

/-- The loops over the HTTP attempts go through exactly when every attempt fits
    the tables and no two share scheme, resolver mode and number. -/
theorem persistHTTPEvidence_iff (evidence : Evidence) :
    (∃ rows, persistHTTPEvidence evidence = .ok rows) ↔
      (∀ a ∈ httpAttempts evidence, HTTPInsertable a) ∧
      ((httpAttempts evidence).map attemptKey).Nodup := by
  rw [persistHTTPEvidence_eq]
  have h := persistHTTPAttempt_uniqueInsert.foldlM_iff (httpAttempts evidence) [] List.nodup_nil
  simpa using h

end DomainMonitor.Monitor
