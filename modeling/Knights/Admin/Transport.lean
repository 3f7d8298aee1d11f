import Knights.Admin.Fanout

namespace Knights.Admin

open Lib List
open Chat (toLowerAscii)

/-!
# Commands on their way

From the request of an administrator to the fields that a server reads: the fields of a command
are signed, written one to a line, published, and read line by line by every server.

* `lookup_parseKvLines` — what is read back of fields that have no line breaks: every value,
  trimmed;
* `command_end_to_end` — the servers read exactly what was signed, and accept it, if and only if
  no name in the request has a line break and a reason that was cut to size does not end in a
  blank;
* `selector_kept` — a command that names servers is applied only by servers that the tool took it
  to name, if the tool passes anything of the selector on and no name has a line break in it.
-/

/-! ### Texts that survive a line -/

/-- A value that is read back from its line as it was written. -/
def Plain (text : String) : Prop := '\n' ∉ text.toList ∧ trimAscii text = text

instance : DecidablePred Plain := fun text =>
  inferInstanceAs (Decidable ('\n' ∉ text.toList ∧ trimAscii text = text))

theorem toList_trimAscii (text : String) :
    (trimAscii text).toList = (text.toList.dropWhile isCSpace).rdropWhile isCSpace :=
  String.toList_ofList

variable {f g : Fields} {r : Request} {text name : String} {values : List String} {n : ℕ}
  {hmac : Hmac} {c : Char}

theorem trimAscii_eq_iff : trimAscii text = text ↔ Trimmed isCSpace text.toList := by
  rw [← String.toList_inj, toList_trimAscii]
  exact ⟨fun h => h ▸ trimmed_trim _ _, Trimmed.trim_eq⟩

theorem trimmed_trimAscii : Trimmed isCSpace (trimAscii text).toList := by
  rw [toList_trimAscii]
  exact trimmed_trim isCSpace text.toList

theorem trimAscii_trimAscii : trimAscii (trimAscii text) = trimAscii text :=
  trimAscii_eq_iff.mpr trimmed_trimAscii

/-- A text without white space is as plain as can be. -/
theorem plain_of_forall (h : ∀ c ∈ text.toList, isCSpace c = false) : Plain text := by
  refine ⟨fun hmem => ?_, trimAscii_eq_iff.mpr (trimmed_of_forall h)⟩
  have hbreak := h '\n' hmem
  cases hbreak

theorem isCSpace_of_isDigit (h : c.isDigit = true) : isCSpace c = false := by
  by_contra hspace
  simp only [isCSpace, Bool.not_eq_false, Bool.or_eq_true, beq_iff_eq] at hspace
  rcases hspace with ((((rfl | rfl) | rfl) | rfl) | rfl) | rfl <;> exact absurd h (by decide)

theorem isDigit_of_mem_toString (h : c ∈ (toString n).toList) : c.isDigit = true := by
  have hdigits : (toString n).toList = Nat.toDigits 10 n := Nat.toList_repr
  rw [hdigits] at h
  exact Nat.isDigit_of_mem_toDigits (by omega) (by omega) h

theorem plain_toString : Plain (toString n) :=
  plain_of_forall fun _ hc => isCSpace_of_isDigit (isDigit_of_mem_toString hc)

/-- What `sanitize_single_line` gives fits on a line. -/
theorem plain_sanitizeSingleLine {value : String} : Plain (sanitizeSingleLine value) := by
  refine ⟨fun hmem => ?_, trimAscii_trimAscii⟩
  have hmem := mem_of_mem_trimAscii hmem
  rw [String.toList_ofList, mem_map] at hmem
  obtain ⟨c, -, hc⟩ := hmem
  split_ifs at hc with hbreak
  · cases hc
  · exact hbreak (.inl hc)

/-! ### Lists of names -/

theorem toList_joinCsv (values : List String) :
    (joinCsv values).toList = [','].intercalate (values.map String.toList) :=
  String.toList_intercalate

/-- A name as `split_csv` gives it. -/
structure Name (name : String) : Prop where
  trimmed : Trimmed isCSpace name.toList
  nonempty : name ≠ ""

theorem trimmed_joinCsv (h : ∀ v ∈ values, Name v) :
    trimAscii (joinCsv values) = joinCsv values := by
  rw [trimAscii_eq_iff, toList_joinCsv]
  apply trimmed_intercalate
  intro l hl
  obtain ⟨v, hv, rfl⟩ := mem_map.mp hl
  refine ⟨(h v hv).trimmed, fun hnil => (h v hv).nonempty ?_⟩
  exact String.toList_eq_nil_iff.mp hnil

/-- A list fits on a line if every name does. -/
theorem break_notMem_joinCsv : '\n' ∉ (joinCsv values).toList ↔ ∀ v ∈ values, '\n' ∉ v.toList := by
  rw [toList_joinCsv]
  constructor
  · intro h v hv hmem
    exact h (mem_intercalate_of_mem (mem_map_of_mem hv) hmem)
  · intro h hmem
    obtain hmem | ⟨l, hl, hmem⟩ := mem_intercalate hmem
    · simp at hmem
    · obtain ⟨v, hv, rfl⟩ := mem_map.mp hl
      exact h v hv hmem

theorem mem_splitCsv {input : String} (h : name ∈ splitCsv input) :
    Name name ∧ ',' ∉ name.toList := by
  obtain ⟨hmem, hne⟩ := mem_filter.mp h
  obtain ⟨token, htoken, rfl⟩ := mem_map.mp hmem
  refine ⟨⟨trimmed_trimAscii, of_decide_eq_true hne⟩, fun hcomma => ?_⟩
  exact notMem_of_mem_splitOn htoken (mem_of_mem_trimmed hcomma)

/-- **Lists are read back.** -/
theorem splitCsv_joinCsv (hne : values ≠ []) (h : ∀ v ∈ values, Name v ∧ ',' ∉ v.toList) :
    splitCsv (joinCsv values) = values := by
  have hpieces : (joinCsv values).toList.splitOn ',' = values.map String.toList := by
    rw [toList_joinCsv]
    apply splitOn_intercalate
    · exact forall_mem_map.mpr fun v hv => (h v hv).2
    · simpa using hne
  have htrim : values.map (fun v => trimAscii (String.ofList v.toList)) = values := by
    refine (map_congr_left fun v hv => ?_).trans (map_id values)
    rw [String.ofList_toList]
    exact trimAscii_eq_iff.mpr (h v hv).1.trimmed
  unfold splitCsv
  rw [hpieces, map_map]
  show (values.map fun v => trimAscii (String.ofList v.toList)).filter (· ≠ "") = values
  rw [htrim]
  exact filter_eq_self.mpr fun v hv => decide_eq_true (h v hv).1.nonempty

/-! ### Fields that survive their lines -/

/-- A name of a field that is read back from its line. -/
def KeyFits (key : String) : Prop :=
  key ≠ "" ∧ trimAscii key = key ∧ '=' ∉ key.toList ∧ '\n' ∉ key.toList

instance : DecidablePred KeyFits := fun key =>
  inferInstanceAs (Decidable (key ≠ "" ∧ trimAscii key = key ∧ '=' ∉ key.toList ∧
    '\n' ∉ key.toList))

theorem map_fst_pairs (g : Fields) : g.pairs.map Prod.fst = g.keys := by
  unfold Fields.pairs
  rw [map_map]
  rfl

/-- A line is read as the entry that was written. -/
theorem insertLine_kvLine {t : Fields} {e : String × String} (hkey : KeyFits e.1) :
    insertLine t (kvLine '=' (e.1.toList, e.2.toList)) = t.insert e.1 (trimAscii e.2) := by
  obtain ⟨hne, htrim, hmark, -⟩ := hkey
  unfold insertLine
  rw [kvCut_kvLine hmark]
  dsimp only
  rw [String.ofList_toList, String.ofList_toList, htrim, if_neg hne]

/-- **What is read back.** A server reads every value as it was sent, trimmed. -/
theorem lookup_parseKvLines (hkeys : g.Each fun k _ => KeyFits k)
    (hvalues : g.Each fun _ v => '\n' ∉ v.toList) (k : String) :
    (parseKvLines (toKvPayload g)).lookup k = (g.lookup k).map trimAscii := by
  have hentry : ∀ e ∈ sortEntries g.pairs, g.lookup e.1 = some e.2 :=
    fun e he => Fields.mem_pairs.mp (mem_sortEntries.mp he)
  have hlines : parseKvLines (toKvPayload g) =
      ((sortEntries g.pairs).map fun e => (e.1, trimAscii e.2)).foldl
        (fun t e => t.insert e.1 e.2) ∅ := by
    by_cases hnil : sortEntries g.pairs = []
    · unfold parseKvLines toKvPayload
      rw [hnil]
      rfl
    have hclean : ∀ e ∈ (sortEntries g.pairs).map fun e => (e.1.toList, e.2.toList),
        KvClean '=' '\n' e.1 e.2 := by
      refine forall_mem_map.mpr fun e he => ?_
      obtain ⟨-, -, hmark, hbreak⟩ := hkeys e.1 e.2 (hentry e he)
      exact ⟨hmark, hbreak, hvalues e.1 e.2 (hentry e he)⟩
    unfold parseKvLines toKvPayload
    rw [toList_joinEntries, splitOn_kvText (by decide) hclean (by simpa using hnil),
      map_map, foldl_map, foldl_map]
    apply foldl_ext
    intro t e he
    exact insertLine_kvLine (hkeys e.1 e.2 (hentry e he))
  have hnodup : ((sortEntries g.pairs).map Prod.fst).Nodup := by
    refine ((perm_insertionSort _ g.pairs).map Prod.fst).nodup_iff.mpr ?_
    rw [map_fst_pairs]
    exact g.nodupKeys
  -- each key has been written once, with the trimmed value
  have hkeysMap : ((sortEntries g.pairs).map fun e => (e.1, trimAscii e.2)).map Prod.fst =
      (sortEntries g.pairs).map Prod.fst := by
    rw [map_map]
    rfl
  rw [hlines]
  cases hlookup : g.lookup k with
  | none =>
    rw [Table.lookup_foldl_insert_of_notMem]
    · rfl
    · rw [hkeysMap]
      intro hmem
      obtain ⟨e, he, rfl⟩ := mem_map.mp hmem
      rw [hentry e he] at hlookup
      cases hlookup
  | some v =>
    refine Table.lookup_foldl_insert_of_mem (hkeysMap ▸ hnodup) ?_ _
    exact mem_map.mpr ⟨(k, v), mem_sortEntries.mpr (Fields.mem_pairs.mpr hlookup), rfl⟩

/-- What is read back is plain. -/
theorem plain_parseKvLines {payload : String} : (parseKvLines payload).Each fun _ v => Plain v := by
  apply each_parseKvLines
  intro key value hclean
  exact ⟨(kvClean_trimmed hclean).brk_value, trimAscii_trimAscii⟩

/-! ### Signatures -/

/-- Sorting does not depend on the order of entries whose names differ. -/
theorem sortEntries_eq_of_perm {es es' : List (String × String)} (hes : (es.map Prod.fst).Nodup)
    (h : es.Perm es') : sortEntries es = sortEntries es' := by
  have htotal : Std.Total fun a b : String × String => a.1 ≤ b.1 := ⟨fun a b => le_total a.1 b.1⟩
  have htrans : IsTrans (String × String) fun a b => a.1 ≤ b.1 := ⟨fun _ _ _ => le_trans⟩
  have hperm : (sortEntries es).Perm (sortEntries es') :=
    ((perm_insertionSort _ es).trans h).trans (perm_insertionSort _ es').symm
  refine hperm.eq_of_pairwise ?_ (pairwise_insertionSort _ es)
    (pairwise_insertionSort _ es')
  intro a b ha hb hab hba
  have hb : b ∈ es := h.mem_iff.mpr (mem_sortEntries.mp hb)
  exact inj_on_of_nodup_map hes (mem_sortEntries.mp ha) hb (le_antisymm hab hba)

/-- **The signed text is one of the fields.** Maps with the same fields are signed alike. -/
theorem canonicalSigningData_congr (h : f.AgreeUnsigned g) :
    canonicalSigningData f = canonicalSigningData g := by
  have hnodup : ∀ f : Fields, ((f.pairs.filter (·.1 ≠ "signature")).map Prod.fst).Nodup := by
    intro f
    refine List.Nodup.sublist (filter_sublist.map Prod.fst) ?_
    rw [map_fst_pairs]
    exact f.nodupKeys
  have hperm : (f.pairs.filter (·.1 ≠ "signature")).Perm (g.pairs.filter (·.1 ≠ "signature")) := by
    rw [perm_ext_iff_of_nodup (.of_map _ (hnodup f)) (.of_map _ (hnodup g))]
    rintro ⟨k, v⟩
    rw [mem_filter, mem_filter, Fields.mem_pairs, Fields.mem_pairs]
    refine and_congr_left fun hk => ?_
    rw [h k (of_decide_eq_true hk)]
  unfold canonicalSigningData
  rw [sortEntries_eq_of_perm (hnodup f) hperm]

/-- What signed fields are made of. -/
structure SignedAs (hmac : Hmac) (secret : String) (f : Fields) (nowMs : ℕ)
    (nonce : String) (g : Fields) : Prop where
  fields : ∀ k, k ≠ "issued_at" → k ≠ "nonce" → k ≠ "signature" → g.lookup k = f.lookup k
  issuedAt : g.lookup "issued_at" = some (toString nowMs)
  nonce : g.lookup "nonce" = some nonce
  signature : g.lookup "signature" = some (signFields hmac g secret)

theorem signedAs_of_append {secret fresh : String} {nowMs : ℕ}
    (h : appendSignatureFields hmac f secret nowMs "" fresh = some g) :
    SignedAs hmac secret f nowMs fresh g := by
  have hfields : ∀ k, k ≠ "issued_at" → k ≠ "nonce" → k ≠ "signature" →
      g.lookup k = f.lookup k :=
    fun k hi hn hs => lookup_of_appendSignatureFields hi hn hs h
  unfold appendSignatureFields at h
  by_cases hsecret : secret = ""
  · rw [if_pos hsecret] at h
    cases h
  rw [if_neg hsecret, if_pos rfl] at h
  dsimp only at h
  split_ifs at h
  obtain rfl := Option.some.inj h
  refine ⟨hfields, by simp, by simp, ?_⟩
  -- the signature is not part of what is signed
  have hsame : ∀ (t : Fields) s, signFields hmac (t.insert "signature" s) secret =
      signFields hmac t secret := by
    intro t s
    unfold signFields
    rw [canonicalSigningData_congr (g := t) fun k hk => by simp [hk]]
  rw [hsame]
  simp

/-! ### What a request puts into a command -/

/-- The parameters of a request. -/
def Request.params : Request → Fields
  | .disconnect params => params
  | .announce params => params
  | .settings params => params
  | .moderation _ params => params
  | .ext _ => ∅

/-- The users that a request names. -/
def Request.users : Request → List String
  | .disconnect params => (requestTargets params).toOption.getD []
  | .moderation _ params => (requestTargets params).toOption.getD []
  | _ => []

/-- The servers that a request names, by any of their properties. -/
def Request.servers (r : Request) : List String := selectorKeys.flatMap (csvField r.params)

/-- The reason of a moderation command, cut to size. -/
def cutReason (params : Fields) : String :=
  truncate 200 (sanitizeSingleLine ((params.lookup "reason").getD ""))

/-- The fields of commands, those of selectors and signatures apart. -/
def ownKeys : List String :=
  ["op", "actor", "request_id", "reason", "client_ids", "priority", "text", "key", "value",
    "duration_sec"]

/-- A field of a command: most are plain whatever the request is, but a list of users may have a
    line break in it, and a reason that was cut may end in a blank. -/
inductive OwnField (r : Request) : String → String → Prop
  | plain {k v : String} (hk : k ∈ ownKeys) (hv : Plain v) : OwnField r k v
  | users (h : r.users ≠ []) : OwnField r "client_ids" (joinCsv r.users)
  | reason {op : ModerationOp} {params : Fields} (h : r = .moderation op params) :
    OwnField r "reason" (cutReason params)

theorem OwnField.mem_ownKeys {k v : String} (h : OwnField r k v) : k ∈ ownKeys := by
  cases h with
  | plain hk hv => exact hk
  | users | reason => decide

/-- What a request gives, its selector apart. -/
structure Request.Gives (r : Request) (base : Fields) : Prop where
  each : base.Each (OwnField r)
  users : r.users ≠ [] → base.lookup "client_ids" = some (joinCsv r.users)
  reason : ∀ op params, r = .moderation op params →
    base.lookup "reason" = some (cutReason params)

variable {params : Fields} {key : String}

/-- The users of a request are names, and there are some. -/
theorem names_of_requestTargets {targets : List String} (h : requestTargets params = .ok targets) :
    targets ≠ [] ∧ ∀ t ∈ targets, Name t := by
  have hdedup : ∀ (valid acc : List String), (∀ t ∈ acc, Name t) → (∀ t ∈ valid, Name t) →
      ∀ t ∈ valid.foldl (fun acc target => if target ∈ acc then acc else acc ++ [target]) acc,
        Name t := by
    intro valid
    induction valid with
    | nil => exact fun acc hacc _ => hacc
    | cons target valid ih =>
      intro acc hacc hvalid
      have htarget := hvalid target mem_cons_self
      refine ih _ ?_ fun t ht => hvalid t (mem_cons_of_mem target ht)
      intro t ht
      dsimp only at ht
      split_ifs at ht
      · exact hacc t ht
      · obtain ht | ht := mem_append.mp ht
        · exact hacc t ht
        · rw [mem_singleton.mp ht]
          exact htarget
  unfold requestTargets at h
  dsimp only at h
  split_ifs at h with hnone hempty hmany
  obtain rfl := Except.ok.inj h
  refine ⟨hempty, hdedup _ [] (fun t ht => (nomatch ht)) ?_⟩
  intro t ht
  obtain ⟨hmem, hok⟩ := mem_filter.mp ht
  obtain ⟨target, -, rfl⟩ := mem_map.mp hmem
  exact ⟨trimmed_trimAscii, (of_decide_eq_true hok).1⟩

/-- The fields that all commands have. -/
theorem each_commandFields {op : String} (hop : Plain op) (actor : String) (requestId : ℕ) :
    (commandFields op actor (toString requestId)).Each (OwnField r) := by
  have hid : Plain ("admin-" ++ toString requestId) := by
    apply plain_of_forall
    intro c hc
    rw [String.toList_append, mem_append] at hc
    obtain hc | hc := hc
    · have hall : ("admin-".toList.all fun c => !isCSpace c) = true := by decide
      simpa using all_eq_true.mp hall c hc
    · exact isCSpace_of_isDigit (isDigit_of_mem_toString hc)
  refine Fields.Each.insert (Fields.Each.insert (Fields.Each.insert Fields.each_empty ?_) ?_) ?_
  · exact .plain (by decide) hop
  · exact .plain (by decide) plain_sanitizeSingleLine
  · exact .plain (by decide) hid

theorem plain_announcementPriority : Plain (announcementPriority params) := by
  have hlist : ∀ text ∈ ["info", "warn", "critical"], Plain text := by decide +kernel
  unfold announcementPriority
  cases params.lookup "priority" with
  | none => exact hlist "info" (by decide)
  | some text =>
    dsimp only
    split_ifs with hmem
    · exact hlist _ hmem
    · exact hlist "info" (by decide)

/-- **What a command is made of**, whichever handler made it. -/
theorem Request.gives_of_fields {actor : String} {requestId : ℕ} (hr : r.channel.isSome = true)
    (h : r.fields actor requestId = .ok f) :
    (parseSelector r.params).valid = true ∧ ∃ base, r.Gives base ∧
      f = appendSelectorFields (parseSelector r.params) base := by
  have hvalid : ∀ {params : Fields} {parse : SelectorParse}, requestSelector params = .ok parse →
      (parseSelector params).valid = true ∧ parse = parseSelector params := by
    intro params parse hparse
    unfold requestSelector at hparse
    split_ifs at hparse with hok
    exact ⟨hok, (Except.ok.inj hparse).symm⟩
  have husers : ∀ {params : Fields} {targets : List String}, requestTargets params = .ok targets →
      (requestTargets params).toOption.getD [] = targets := by
    intro params targets htargets
    rw [htargets]
    rfl
  cases r with
  | disconnect params =>
    obtain ⟨selector, hselector, h⟩ := ok_of_bind h
    obtain ⟨targets, htargets, h⟩ := ok_of_bind h
    obtain ⟨hok, rfl⟩ := hvalid hselector
    obtain rfl := Except.ok.inj h
    obtain rfl := husers htargets
    refine ⟨hok, _, ⟨?_, fun _ => by simp [Request.users], nofun⟩, rfl⟩
    have hop : Plain "disconnect" := by decide +kernel
    refine ((each_commandFields hop actor requestId).insert ?_).insert ?_
    · exact .plain (by decide) plain_sanitizeSingleLine
    · exact .users (names_of_requestTargets htargets).1
  | announce params =>
    obtain ⟨selector, hselector, h⟩ := ok_of_bind h
    obtain ⟨hok, rfl⟩ := hvalid hselector
    dsimp only at h
    split_ifs at h
    obtain rfl := Except.ok.inj h
    refine ⟨hok, _, ⟨?_, fun hne => absurd rfl hne, nofun⟩, rfl⟩
    have hop : Plain "announce" := by decide +kernel
    refine ((each_commandFields hop actor requestId).insert ?_).insert ?_
    · exact .plain (by decide) plain_announcementPriority
    · exact .plain (by decide) plain_sanitizeSingleLine
  | settings params =>
    obtain ⟨selector, hselector, h⟩ := ok_of_bind h
    obtain ⟨hok, rfl⟩ := hvalid hselector
    dsimp only at h
    split_ifs at h
    split at h
    · cases h
    split at h
    · cases h
    split_ifs at h
    obtain rfl := Except.ok.inj h
    refine ⟨hok, _, ⟨?_, fun hne => absurd rfl hne, nofun⟩, rfl⟩
    have hop : Plain "settings" := by decide +kernel
    refine ((each_commandFields hop actor requestId).insert ?_).insert ?_
    · exact .plain (by decide) plain_sanitizeSingleLine
    · exact .plain (by decide) plain_toString
  | moderation op params =>
    obtain ⟨selector, hselector, h⟩ := ok_of_bind h
    obtain ⟨targets, htargets, h⟩ := ok_of_bind h
    obtain ⟨durationSec, -, h⟩ := ok_of_bind h
    obtain ⟨hok, rfl⟩ := hvalid hselector
    obtain rfl := Except.ok.inj h
    obtain rfl := husers htargets
    refine ⟨hok, _, ⟨?_, fun _ => by simp [Request.users], ?_⟩, rfl⟩
    · have hop : Plain (sanitizeSingleLine op.text) := plain_sanitizeSingleLine
      refine (((each_commandFields hop actor requestId).insert ?_).insert ?_).insert ?_
      · exact .plain (by decide) plain_toString
      · exact .reason rfl
      · exact .users (names_of_requestTargets htargets).1
    · intro op' params' heq
      obtain ⟨rfl, rfl⟩ := Request.moderation.inj heq
      simp [cutReason]
  | ext wave => cases hr

/-! ### Selectors on their way -/

/-- A selector that is read has no flag, or a flag that is. -/
theorem parseSelector_of_valid (h : (parseSelector f).valid = true) :
    ∃ all allSpecified, (allSpecified = false → all = false) ∧
      parseSelector f = selectorOf f all allSpecified := by
  unfold parseSelector at h ⊢
  cases hall : f.lookup "all" with
  | none => exact ⟨false, false, fun _ => rfl, rfl⟩
  | some text =>
    rw [hall] at h
    dsimp only at h ⊢
    cases hflag : parseFlag text with
    | none =>
      rw [hflag] at h
      cases h
    | some all => exact ⟨all, true, nofun, rfl⟩

theorem lookup_appendCsvField_self (key : String) (values : List String) (f : Fields) :
    (appendCsvField key values f).lookup key =
      if values = [] then f.lookup key else some (joinCsv values) := by
  unfold appendCsvField
  split_ifs
  · rfl
  · simp

/-- What a command says of a property of servers. -/
theorem lookup_selectorKey (hvalid : (parseSelector params).valid = true)
    (hkey : key ∈ selectorKeys) (f : Fields) :
    (appendSelectorFields (parseSelector params) f).lookup key =
      if csvField params key = [] then f.lookup key else some (joinCsv (csvField params key)) := by
  obtain ⟨all, allSpecified, -, hparse⟩ := parseSelector_of_valid hvalid
  rw [hparse]
  by_cases hspecified : (selectorOf params all allSpecified).specified = true
  · unfold appendSelectorFields
    rw [if_pos hspecified]
    -- the fields are written in turn, each under a name of its own
    simp only [selectorKeys, mem_cons, not_mem_nil, or_false] at hkey
    obtain rfl | rfl | rfl | rfl | rfl | rfl := hkey <;> cases allSpecified <;>
      simp [selectorOf, lookup_appendCsvField, lookup_appendCsvField_self]
  · have hnone : params.lookup key = none := by
      rw [selectorOf, Bool.or_eq_true, not_or, any_eq_true] at hspecified
      by_contra hsome
      exact hspecified.2 ⟨key, hkey, Option.isSome_iff_ne_none.mpr hsome⟩
    have hempty : csvField params key = [] := by
      unfold csvField
      rw [hnone]
      rfl
    unfold appendSelectorFields
    rw [if_neg hspecified, if_pos hempty]

/-- What a command says of all servers. -/
theorem lookup_all (hvalid : (parseSelector params).valid = true) (f : Fields) :
    (appendSelectorFields (parseSelector params) f).lookup "all" =
      if (parseSelector params).allSpecified then
        some (if (parseSelector params).selector.all then "1" else "0")
      else f.lookup "all" := by
  obtain ⟨all, allSpecified, -, hparse⟩ := parseSelector_of_valid hvalid
  rw [hparse]
  unfold appendSelectorFields
  by_cases hspecified : (selectorOf params all allSpecified).specified = true
  · rw [if_pos hspecified]
    cases allSpecified <;> simp [selectorOf, lookup_appendCsvField]
  · rw [if_neg hspecified]
    cases allSpecified with
    | true => exact absurd rfl hspecified
    | false => rfl

/-! ### The published message -/

/-- A text as the code writes nonces and signatures. -/
def Hex (text : String) : Prop := text ≠ "" ∧ ∀ c ∈ text.toList, c ∈ "0123456789abcdef".toList

theorem Hex.plain (h : Hex text) : Plain text := by
  have hdigit : ("0123456789abcdef".toList.all fun c => !isCSpace c) = true := by decide
  refine plain_of_forall fun c hc => ?_
  simpa using all_eq_true.mp hdigit c (h.2 c hc)

/-- A field of a published command. -/
inductive WireField (r : Request) : String → String → Prop
  | own {k v : String} (h : OwnField r k v) : WireField r k v
  | plain {k v : String} (hk : k ∈ ["all", "issued_at", "nonce", "signature"]) (hv : Plain v) :
    WireField r k v
  | servers {k : String} (hk : k ∈ selectorKeys) (hne : csvField r.params k ≠ []) :
    WireField r k (joinCsv (csvField r.params k))

/-- No name in the request has a line break. -/
def Request.NamesFit (r : Request) : Prop := ∀ name ∈ r.users ++ r.servers, '\n' ∉ name.toList

instance : DecidablePred Request.NamesFit := fun r =>
  inferInstanceAs (Decidable (∀ name ∈ r.users ++ r.servers, '\n' ∉ name.toList))

/-- A reason that is cut to size does not end in a blank. -/
def Request.ReasonFits : Request → Prop
  | .moderation _ params => trimAscii (cutReason params) = cutReason params
  | _ => True

instance : DecidablePred Request.ReasonFits := fun r => by
  unfold Request.ReasonFits
  cases r <;> infer_instance

theorem WireField.keyFits {k v : String} (h : WireField r k v) : KeyFits k := by
  have hkeys : ∀ k ∈ ownKeys ++ ["all", "issued_at", "nonce", "signature"] ++ selectorKeys,
      KeyFits k := by decide +kernel
  apply hkeys
  rw [mem_append, mem_append]
  cases h with
  | own h => exact .inl (.inl h.mem_ownKeys)
  | plain hk hv => exact .inl (.inr hk)
  | servers hk hne => exact .inr hk

theorem name_of_mem_users (h : name ∈ r.users) : Name name := by
  have htargets : ∀ params : Fields, name ∈ (requestTargets params).toOption.getD [] →
      Name name := by
    intro params hmem
    cases hok : requestTargets params with
    | error e =>
      rw [hok] at hmem
      cases hmem
    | ok targets =>
      rw [hok] at hmem
      exact (names_of_requestTargets hok).2 name hmem
  cases r with
  | disconnect params | moderation op params => exact htargets params h
  | announce | settings | ext => cases h

theorem name_of_mem_csvField (h : name ∈ csvField f key) : Name name ∧ ',' ∉ name.toList := by
  unfold csvField at h
  cases hlookup : f.lookup key with
  | none =>
    rw [hlookup] at h
    cases h
  | some value =>
    rw [hlookup] at h
    exact mem_splitCsv h

/-- Names without line breaks give values without line breaks. -/
theorem WireField.oneLine {k v : String} (h : WireField r k v) (hr : r.NamesFit) :
    '\n' ∉ v.toList := by
  cases h with
  | own h =>
    cases h with
    | plain hk hv => exact hv.1
    | users h =>
      exact break_notMem_joinCsv.mpr fun v hv => hr v (mem_append_left _ hv)
    | reason h =>
      show '\n' ∉ (truncate _ _).toList
      rw [truncate, String.toList_ofList]
      exact fun hmem => plain_sanitizeSingleLine.1 (mem_of_mem_take hmem)
  | plain hk hv => exact hv.1
  | servers hk hne =>
    refine break_notMem_joinCsv.mpr fun v hv => hr v (mem_append_right _ ?_)
    exact mem_flatMap.mpr ⟨k, hk, hv⟩

/-- Lists of names are trimmed, and so is everything else if the reason is. -/
theorem WireField.trimmed {k v : String} (h : WireField r k v) (hr : r.ReasonFits) :
    trimAscii v = v := by
  cases h with
  | own h =>
    cases h with
    | plain hk hv => exact hv.2
    | users h => exact trimmed_joinCsv fun v hv => name_of_mem_users hv
    | reason h =>
      rw [h] at hr
      exact hr
  | plain hk hv => exact hv.2
  | servers hk hne => exact trimmed_joinCsv fun v hv => (name_of_mem_csvField hv).1

/-- A command as it is published. -/
structure Published (hmac : Hmac) (secret : String) (r : Request) (nowMs : ℕ)
    (nonce : String) (g : Fields) : Prop where
  each : g.Each (WireField r)
  users : r.users ≠ [] → g.lookup "client_ids" = some (joinCsv r.users)
  reason : ∀ op params, r = .moderation op params → g.lookup "reason" = some (cutReason params)
  servers : ∀ key ∈ selectorKeys, g.lookup key =
    if csvField r.params key = [] then none else some (joinCsv (csvField r.params key))
  all : g.lookup "all" = if (parseSelector r.params).allSpecified then
    some (if (parseSelector r.params).selector.all then "1" else "0") else none
  issuedAt : g.lookup "issued_at" = some (toString nowMs)
  nonce : g.lookup "nonce" = some nonce
  signature : g.lookup "signature" = some (signFields hmac g secret)

/-- The text of a command that is signed is not empty. -/
theorem canonicalSigningData_ne_empty {k v : String} (hk : k ≠ "signature")
    (h : f.lookup k = some v) : canonicalSigningData f ≠ "" := by
  intro hempty
  have htext := congrArg String.toList hempty
  unfold canonicalSigningData at htext
  rw [toList_joinEntries] at htext
  have hnil := map_eq_nil_iff.mp (kvText_eq_nil_iff.mp htext)
  have hmem : (k, v) ∈ sortEntries (f.pairs.filter (·.1 ≠ "signature")) := by
    simp [hk, h]
  rw [hnil] at hmem
  cases hmem

section Publish

variable {hmac : Hmac} {secret fresh : String} {r : Request} {f g : Fields}
  {nowMs requestId : ℕ} {actor : String}

section

variable (hhex : ∀ text, Hex (hmac secret text)) (hsecret : secret ≠ "")
include hhex hsecret

theorem hex_signFields
    (time : String) (h : g.lookup "issued_at" = some time) : Hex (signFields hmac g secret) := by
  unfold signFields
  rw [if_neg hsecret, if_neg (canonicalSigningData_ne_empty (by decide) h)]
  exact hhex _

/-- With a secret, a command can be signed. -/
theorem exists_signed (f : Fields) (nowMs : ℕ) (fresh : String) :
    ∃ g, appendSignatureFields hmac f secret nowMs "" fresh = some g := by
  unfold appendSignatureFields
  rw [if_neg hsecret, if_pos rfl]
  rw [if_neg (hex_signFields hhex hsecret (toString nowMs) (by simp)).1]
  exact ⟨_, rfl⟩

/-- **What is published**, for every command that the tool accepts. -/
theorem published_of_signed
    (hfresh : Hex fresh) (hr : r.channel.isSome = true) (h : r.fields actor requestId = .ok f)
    (hsigned : appendSignatureFields hmac f secret nowMs "" fresh = some g) :
    Published hmac secret r nowMs fresh g := by
  obtain ⟨hvalid, base, hbase, rfl⟩ := Request.gives_of_fields hr h
  have hs := signedAs_of_append hsigned
  have hnone : ∀ k, k ∉ ownKeys → base.lookup k = none := by
    intro k hk
    cases hkv : base.lookup k with
    | none => rfl
    | some v => exact absurd (hbase.each k v hkv).mem_ownKeys hk
  have hown : ∀ k ∈ ownKeys, g.lookup k = base.lookup k := by
    intro k hk
    have hapart : ∀ k ∈ ownKeys, k ≠ "issued_at" ∧ k ≠ "nonce" ∧ k ≠ "signature" ∧ k ≠ "all" ∧
        k ∉ selectorKeys := by decide
    obtain ⟨hissued, hnonce, hsignature, hall, hkey⟩ := hapart k hk
    rw [hs.fields k hissued hnonce hsignature, lookup_appendSelectorFields hall hkey]
  have hservers : ∀ key ∈ selectorKeys, g.lookup key =
      if csvField r.params key = [] then none else some (joinCsv (csvField r.params key)) := by
    intro key hkey
    have hapart : ∀ key ∈ selectorKeys, key ≠ "issued_at" ∧ key ≠ "nonce" ∧ key ≠ "signature" ∧
        key ∉ ownKeys := by decide
    obtain ⟨hissued, hnonce, hsignature, hforeign⟩ := hapart key hkey
    rw [hs.fields key hissued hnonce hsignature, lookup_selectorKey hvalid hkey, hnone key hforeign]
  have hall : g.lookup "all" = if (parseSelector r.params).allSpecified then
      some (if (parseSelector r.params).selector.all then "1" else "0") else none := by
    rw [hs.fields "all" (by decide) (by decide) (by decide), lookup_all hvalid,
      hnone "all" (by decide)]
  refine ⟨?_, ?_, ?_, hservers, hall, hs.issuedAt, hs.nonce, hs.signature⟩
  · intro k v hkv
    have hplain : ∀ {w}, k ∈ ["all", "issued_at", "nonce", "signature"] → g.lookup k = some w →
        Plain w → WireField r k v := fun hk hw hplain =>
      .plain hk (Option.mem_unique hkv hw ▸ hplain)
    by_cases hissued : k = "issued_at"
    · exact hplain (by simp [hissued]) (hissued ▸ hs.issuedAt) plain_toString
    by_cases hnonce : k = "nonce"
    · exact hplain (by simp [hnonce]) (hnonce ▸ hs.nonce) hfresh.plain
    by_cases hsignature : k = "signature"
    · exact hplain (by simp [hsignature]) (hsignature ▸ hs.signature)
        (hex_signFields hhex hsecret _ hs.issuedAt).plain
    by_cases hkall : k = "all"
    · have hflags : Plain "1" ∧ Plain "0" := by decide +kernel
      rw [hkall, hall] at hkv
      split_ifs at hkv
      · exact .plain (by simp [hkall]) (Option.some.inj hkv ▸ hflags.1)
      · exact .plain (by simp [hkall]) (Option.some.inj hkv ▸ hflags.2)
    by_cases hkey : k ∈ selectorKeys
    · rw [hservers k hkey] at hkv
      split_ifs at hkv with hnil
      rw [← Option.some.inj hkv]
      exact .servers hkey hnil
    · rw [hs.fields k hissued hnonce hsignature, lookup_appendSelectorFields hkall hkey] at hkv
      exact .own (hbase.each k v hkv)
  · intro hne
    rw [hown "client_ids" (by decide)]
    exact hbase.users hne
  · intro op params heq
    rw [hown "reason" (by decide)]
    exact hbase.reason op params heq

end

/-- What a server reads of a published command. -/
theorem Published.lookup_parse (h : Published hmac secret r nowMs fresh g) (hr : r.NamesFit)
    (k : String) : (parseKvLines (toKvPayload g)).lookup k = (g.lookup k).map trimAscii :=
  lookup_parseKvLines (h.each.mono fun _ _ hkv => hkv.keyFits)
    (h.each.mono fun _ _ hkv => hkv.oneLine hr) k

/-- **When a command is read as it was signed.** -/
theorem Published.parse_eq_iff (h : Published hmac secret r nowMs fresh g) :
    (∀ k, (parseKvLines (toKvPayload g)).lookup k = g.lookup k) ↔
      r.NamesFit ∧ r.ReasonFits := by
  constructor
  · intro hsame
    -- what is read is plain, so what was sent has to be
    have hplain : ∀ {k v : String}, g.lookup k = some v → Plain v := by
      intro k v hkv
      rw [← hsame k] at hkv
      exact plain_parseKvLines k v hkv
    refine ⟨fun name hname => ?_, ?_⟩
    · obtain hname | hname := mem_append.mp hname
      · have hline := (hplain (h.users (ne_nil_of_mem hname))).1
        exact break_notMem_joinCsv.mp hline name hname
      · obtain ⟨key, hkey, hname⟩ := mem_flatMap.mp hname
        have hlookup := h.servers key hkey
        rw [if_neg (ne_nil_of_mem hname)] at hlookup
        exact break_notMem_joinCsv.mp (hplain hlookup).1 name hname
    · cases r with
      | moderation op params => exact (hplain (h.reason op params rfl)).2
      | disconnect | announce | settings | ext => trivial
  · rintro ⟨hnames, hreason⟩ k
    rw [h.lookup_parse hnames]
    cases hkv : g.lookup k with
    | none => rfl
    | some v => exact congrArg some ((h.each k v hkv).trimmed hreason)

end Publish

/-! ### From the request to the server -/

/-- **Times are read back.** -/
theorem parseU64_toString (h : n < 2 ^ 64) : parseU64 (toString n) = some n := by
  have hdigits : (toString n).toList = Nat.toDigits 10 n := Nat.toList_repr
  have hne : toString n ≠ "" := by
    intro hempty
    rw [hempty] at hdigits
    exact Nat.toDigits_ne_nil hdigits.symm
  unfold parseU64
  rw [if_neg hne, hdigits]
  refine (foldl_parseU64 _ 0 n (by decide)).mpr ⟨fun c hc => ?_, ?_, h⟩
  · exact Nat.isDigit_of_mem_toDigits (by omega) (by omega) hc
  · exact Nat.ofDigitChars_ten_toDigits

/-- A command that is read as it was signed is accepted while it is fresh. -/
theorem Published.verify_ok {secret fresh : String} {nowMs now : ℕ}
    (h : Published hmac secret r nowMs fresh g) (hhex : ∀ text, Hex (hmac secret text))
    (hsecret : secret ≠ "") (hfresh : Hex fresh) (hread : ∀ k, f.lookup k = g.lookup k)
    {v : Verifier} (hv : v.secret = secret) (hafter : nowMs ≤ now)
    (hbefore : now ≤ nowMs + v.options.ttlMs) (hskew : now + v.options.futureSkewMs < 2 ^ 64)
    (httl : nowMs + v.options.ttlMs < 2 ^ 64) (hunseen : v.seenNonces.lookup fresh = none) :
    (v.verify hmac f now).2 = .ok := by
  have hsign : signFields hmac f secret = signFields hmac g secret := by
    unfold signFields
    rw [canonicalSigningData_congr fun k _ => hread k]
  have hsigned := (hex_signFields hhex hsecret _ h.issuedAt).1
  have hparse : parseU64 (toString nowMs) = some nowMs := parseU64_toString (by omega)
  have hnotFuture : ¬ add64 now v.options.futureSkewMs < nowMs := by
    rw [Verifier.add64_eq hskew]
    omega
  have hnotExpired : ¬ add64 nowMs v.options.ttlMs < now := by
    rw [Verifier.add64_eq httl]
    omega
  have hnew : ((v.purge now).lookup fresh).isSome = false := by
    rw [Verifier.lookup_purge, hunseen]
    rfl
  unfold Verifier.verify
  rw [if_neg (hv ▸ hsecret), hread, hread, hread, h.issuedAt, h.nonce, h.signature]
  dsimp only
  rw [if_neg (by simp [hfresh.1, hsigned]), hparse]
  dsimp only
  rw [if_neg hnotFuture, if_neg hnotExpired, hv, hsign, if_neg (by simp [hsigned])]
  unfold Verifier.acceptOnce
  rw [hnew]
  rfl

/-- **A command from end to end.** For every request that the tool accepts, signatures being
    hexadecimal digits: the message is published; every server reads from it exactly the fields
    that were signed, if and only if no name has a line break in it and a reason that was cut
    does not end in a blank; and then a server with the same secret accepts it while it is fresh
    and its nonce is new. -/
theorem command_end_to_end (hmac : Hmac) {secret : String}
    (hhex : ∀ text, Hex (hmac secret text)) (hsecret : secret ≠ "") {r : Request}
    (hr : r.channel.isSome = true) {actor : String} {requestId : ℕ} {f : Fields}
    (h : r.fields actor requestId = .ok f) (nowMs : ℕ) {fresh : String} (hfresh : Hex fresh) :
    ∃ g message payload, appendSignatureFields hmac f secret nowMs "" fresh = some g ∧
      buildSignedAdminMessage hmac secret f nowMs fresh = some message ∧
      openEnvelope message = some ("admin_app", some payload) ∧
      ((∀ k, (parseKvLines payload).lookup k = g.lookup k) ↔ r.NamesFit ∧ r.ReasonFits) ∧
      (r.NamesFit ∧ r.ReasonFits → ∀ (v : Verifier) (now : ℕ), v.secret = secret →
        nowMs ≤ now → now ≤ nowMs + v.options.ttlMs → now + v.options.futureSkewMs < 2 ^ 64 →
        nowMs + v.options.ttlMs < 2 ^ 64 → v.seenNonces.lookup fresh = none →
          (v.verify hmac (parseKvLines payload) now).2 = .ok) := by
  obtain ⟨g, hg⟩ := exists_signed hhex hsecret f nowMs fresh
  have hpub := published_of_signed hhex hsecret hfresh hr h hg
  refine ⟨g, adminMessage g, toKvPayload g, hg, ?_, ?_, hpub.parse_eq_iff, ?_⟩
  · unfold buildSignedAdminMessage
    rw [hg]
    rfl
  · have hname : '\n' ∉ "admin_app".toList := by decide
    exact openEnvelope_eq hname (toKvPayload g)
  · intro hfits v now hv hafter hbefore hskew httl hunseen
    exact hpub.verify_ok hhex hsecret hfresh (hpub.parse_eq_iff.mpr hfits) hv hafter hbefore hskew
      httl hunseen

/-- The length of a keyed text in the place of an HMAC. -/
def sampleDigest (secret text : String) : String := toString (secret.length + text.length)

theorem hex_nonce : Hex "0a" := by
  have hall : ("0a".toList.all fun c => decide (c ∈ "0123456789abcdef".toList)) = true := by decide
  exact ⟨by decide, fun c hc => of_decide_eq_true (all_eq_true.mp hall c hc)⟩

theorem hex_toString : Hex (toString n) := by
  have hhex : ∀ k < 10, Char.ofNat (48 + k) ∈ "0123456789abcdef".toList := by decide
  refine ⟨by simp, fun c hc => ?_⟩
  have hdigit := isDigit_of_mem_toString hc
  simp only [Char.isDigit, Bool.and_eq_true, decide_eq_true_eq] at hdigit
  have hlow : 48 ≤ c.toNat := hdigit.1
  have hhigh : c.toNat ≤ 57 := hdigit.2
  obtain ⟨k, hk⟩ := Nat.exists_eq_add_of_le hlow
  rw [← Char.ofNat_toNat c, hk]
  exact hhex k (by omega)

/-- A mute of a user whose name has a line break in it. -/
def brokenNameRequest : Request := .moderation .mute ((∅ : Fields).insert "client_id" "a\nb")

/-- The fields of a request as they are signed with the sample digest. -/
def digestFields (r : Request) : Fields :=
  (appendSignatureFields sampleDigest (unsignedFields r) "key" 7 "" "0a").getD ∅

theorem command_end_to_end_hello :
    ∃ g message payload,
      appendSignatureFields sampleDigest (unsignedFields helloRequest) "key" 7 "" "0a" = some g ∧
      buildSignedAdminMessage sampleDigest "key" (unsignedFields helloRequest) 7 "0a" =
        some message ∧
      openEnvelope message = some ("admin_app", some payload) ∧
      (∀ k, (parseKvLines payload).lookup k = g.lookup k) ∧
      ((⟨"key", {}, ∅⟩ : Verifier).verify sampleDigest (parseKvLines payload) 8).2 = .ok := by
  have hfields : helloRequest.fields "admin" 1 = .ok (unsignedFields helloRequest) :=
    fields_unsignedFields (by decide +kernel)
  have hfits : helloRequest.NamesFit ∧ helloRequest.ReasonFits := by decide +kernel
  have hfresh := hex_nonce
  have hsecret : "key" ≠ "" := by decide
  obtain ⟨g, message, payload, hg, hmessage, hopen, hread, hok⟩ :=
    command_end_to_end sampleDigest (fun _ => hex_toString) hsecret rfl hfields 7 hfresh
  exact ⟨g, message, payload, hg, hmessage, hopen, hread.mpr hfits,
    hok hfits _ 8 rfl (by decide) (by decide) (by decide) (by decide) rfl⟩

/-- A name with a line break is read up to the break, and the command is rejected. -/
theorem brokenName_rejected :
    (brokenNameRequest.fields "admin" 1).isOk = true ∧
      (digestFields brokenNameRequest).lookup "client_ids" = some "a\nb" ∧
      (parseKvLines (toKvPayload (digestFields brokenNameRequest))).lookup "client_ids" = some "a" ∧
      ((⟨"key", {}, ∅⟩ : Verifier).verify sampleDigest
        (parseKvLines (toKvPayload (digestFields brokenNameRequest))) 8).2 =
          .signatureMismatch := by
  decide +kernel

/-! ### Selectors from the request to the server -/

/-- The tool passes something of a selector on: its flag, or a name. -/
def SelectorParse.emits (parse : SelectorParse) : Bool :=
  parse.allSpecified || parse.selector.hasField

theorem parseFlag_written (all : Bool) : parseFlag (if all then "1" else "0") = some all := by
  cases all <;> decide +kernel

section Selector

variable {hmac : Hmac} {secret nonce : String} {r : Request} {g : Fields}
  {nowMs : ℕ}

variable (h : Published hmac secret r nowMs nonce g) (hr : r.NamesFit)
include h hr

/-- The names of servers are read as they were sent. -/
theorem Published.csvField_parse (hkey : key ∈ selectorKeys) :
    csvField (parseKvLines (toKvPayload g)) key = csvField r.params key := by
  rw [csvField, h.lookup_parse hr, h.servers key hkey]
  split_ifs with hnil
  · rw [hnil, Option.map_none, Option.map_none, Option.getD_none]
  · have hnames : ∀ v ∈ csvField r.params key, Name v ∧ ',' ∉ v.toList :=
      fun v hv => name_of_mem_csvField hv
    rw [Option.map_some, Option.map_some, Option.getD_some,
      trimmed_joinCsv fun v hv => (hnames v hv).1]
    exact splitCsv_joinCsv hnil hnames

/-- **The selector arrives as it was sent**, if anything of it was sent. -/
theorem Published.parseSelector_parse (hvalid : (parseSelector r.params).valid = true) :
    (parseSelector (parseKvLines (toKvPayload g))).valid = true ∧
      (parseSelector (parseKvLines (toKvPayload g))).selector =
        (parseSelector r.params).selector ∧
      (parseSelector (parseKvLines (toKvPayload g))).specified =
        (parseSelector r.params).emits := by
  have hall : (parseKvLines (toKvPayload g)).lookup "all" =
      if (parseSelector r.params).allSpecified then
        some (if (parseSelector r.params).selector.all then "1" else "0") else none := by
    have hflags : trimAscii "1" = "1" ∧ trimAscii "0" = "0" := by decide +kernel
    rw [h.lookup_parse hr, h.all]
    split_ifs
    · rw [Option.map_some, hflags.1]
    · rw [Option.map_some, hflags.2]
    · rfl
  -- a property is named in the command exactly if the list of it is not empty
  have hsome : ∀ key ∈ selectorKeys, ((parseKvLines (toKvPayload g)).lookup key).isSome =
      decide (csvField r.params key ≠ []) := by
    intro key hkey
    rw [h.lookup_parse hr, h.servers key hkey, Option.isSome_map]
    split_ifs with hnil
    · simp [hnil]
    · simp [hnil]
  have hcsv : ∀ key ∈ selectorKeys,
      csvField (parseKvLines (toKvPayload g)) key = csvField r.params key :=
    fun _ hkey => h.csvField_parse hr hkey
  generalize parseKvLines (toKvPayload g) = read at hall hsome hcsv ⊢
  obtain ⟨all, allSpecified, himp, hparse⟩ := parseSelector_of_valid hvalid
  rw [hparse] at hall ⊢
  have hread : parseSelector read = selectorOf read all allSpecified := by
    unfold parseSelector
    cases allSpecified with
    | false =>
      rw [himp rfl, show read.lookup "all" = none from hall]
    | true =>
      rw [show read.lookup "all" = some (if all then "1" else "0") from hall]
      dsimp only
      rw [parseFlag_written]
  have hsame : (selectorOf read all allSpecified).selector =
      (selectorOf r.params all allSpecified).selector := by
    unfold selectorOf
    rw [hcsv _ (by decide), hcsv _ (by decide), hcsv _ (by decide), hcsv _ (by decide),
      hcsv _ (by decide), hcsv _ (by decide)]
  have hany : selectorKeys.any (fun key => (read.lookup key).isSome) =
      selectorKeys.any fun key => decide (csvField r.params key ≠ []) := by
    rw [Bool.eq_iff_iff, any_eq_true, any_eq_true]
    refine exists_congr fun key => and_congr_right fun hkey => ?_
    rw [hsome key hkey]
  rw [hread]
  refine ⟨rfl, hsame, ?_⟩
  unfold SelectorParse.emits InstanceSelector.hasField selectorOf
  rw [hany]
  cases allSpecified with
  | true => rfl
  | false => simp [himp rfl, selectorKeys, Bool.or_assoc]

/-- A selector of which something was passed on names the same servers where it arrives. -/
theorem Published.isTarget_eq (hvalid : (parseSelector r.params).valid = true)
    (hemits : (parseSelector r.params).emits = true) (record : InstanceRecord) :
    isTarget record (parseKvLines (toKvPayload g)) =
      matchesSelector record (parseSelector r.params).selector := by
  obtain ⟨hok, hselector, hspecified⟩ := h.parseSelector_parse hr hvalid
  unfold isTarget
  dsimp only
  rw [hok, hselector, hspecified, hemits]
  rfl

/-- **Whom a command is for.** A selector of which nothing was passed on named no server, and the
    command is for all. -/
theorem Published.isTarget_iff (hvalid : (parseSelector r.params).valid = true) :
    (∀ record, isTarget record (parseKvLines (toKvPayload g)) = true →
        matchesSelector record (parseSelector r.params).selector = true) ↔
      (parseSelector r.params).emits = true := by
  refine ⟨fun hnarrow => ?_, fun hemits record htarget => ?_⟩
  · by_contra hsilent
    rw [Bool.not_eq_true] at hsilent
    have hfields : (parseSelector r.params).selector.hasField = false := by
      rw [SelectorParse.emits, Bool.or_eq_false_iff] at hsilent
      exact hsilent.2
    have hall : (parseSelector r.params).selector.all = false := by
      unfold InstanceSelector.hasField at hfields
      simp only [Bool.or_eq_false_iff] at hfields
      exact hfields.1.1.1.1.1.1
    have htarget : isTarget {} (parseKvLines (toKvPayload g)) = true := by
      obtain ⟨-, -, hspecified⟩ := h.parseSelector_parse hr hvalid
      unfold isTarget
      dsimp only
      rw [hspecified, hsilent]
      rfl
    have hmatch := hnarrow {} htarget
    rw [matchesSelector, hall, hfields] at hmatch
    cases hmatch
  · rw [← h.isTarget_eq hr hvalid hemits]
    exact htarget

end Selector

/-- An announcement for some servers. -/
def selectedRequest (servers : String) : Request :=
  .announce (((∅ : Fields).insert "text" "hello").insert "server_ids" servers)

end Knights.Admin
