import Knights.Admin.Selector

namespace Knights.Admin

open Lib
open Chat (toLowerAscii)

/-!
# The commands of the administrator's tool

How `admin_app` makes commands: from the parameters of a request it builds the fields of a
command, signs them and publishes them on the channel of the command.

* `AdminChannel` are the channels, `Request` the requests;
* `Request.fields` are the fields that a request gives, or the error it is answered with;
* `buildSignedAdminMessage` is the message that is published.
-/

/-! ### Channels and requests -/

/-- The channels on which servers take commands. -/
inductive AdminChannel
  | disconnect
  | announce
  | settings
  | moderation
  deriving DecidableEq, Repr

/-- What a moderation command does. -/
inductive ModerationOp
  | mute
  | unmute
  | ban
  | unban
  | kick
  deriving DecidableEq, Repr

/-- The name of an operation in a command. -/
def ModerationOp.text : ModerationOp → String
  | .mute => "mute"
  | .unmute => "unmute"
  | .ban => "ban"
  | .unban => "unban"
  | .kick => "kick"

/-- What a wave of a deployment tells the servers. -/
structure ExtWave where
  rollback : Bool
  commandId : String
  artifactId : String
  kind : String
  stage : String
  priority : ℕ
  exclusiveGroup : String
  hookScope : List String
  rolloutType : String
  waveIndex : ℕ
  wavePercent : ℕ
  serverIds : List String
  runAtUtc : Option ℕ

/-- A request for a command; `params` are the parameters of its query. -/
inductive Request
  | disconnect (params : Fields)
  | announce (params : Fields)
  | settings (params : Fields)
  | moderation (op : ModerationOp) (params : Fields)
  | ext (wave : ExtWave)

/-- The channel on which servers take the command; none for deployments, which have channels
    of their own that the server does not know. -/
def Request.channel : Request → Option AdminChannel
  | .disconnect _ => some .disconnect
  | .announce _ => some .announce
  | .settings _ => some .settings
  | .moderation _ _ => some .moderation
  | .ext _ => none

/-! ### Reading parameters -/

/-- `sanitize_single_line`. -/
def sanitizeSingleLine (value : String) : String :=
  trimAscii (String.ofList (value.toList.map fun c => if c = '\n' ∨ c = '\r' then ' ' else c))

/-- `std::string::resize` on a text that is too long. -/
def truncate (n : ℕ) (text : String) : String := String.ofList (text.toList.take n)

/-- `parse_u32_strict`. -/
def parseU32Strict (raw : String) : Option ℕ :=
  let digits (cs : List Char) : Option ℕ :=
    if cs = [] ∨ cs.any (!·.isDigit) then none
    else some (cs.foldl (fun n c => n * 10 + (c.toNat - '0'.toNat)) 0)
  let parsed : Option ℕ :=
    match raw.toList.dropWhile isCSpace with
    | '-' :: cs => ((digits cs).filter (· < 2 ^ 64)).map fun n => (2 ^ 64 - n) % 2 ^ 64
    | '+' :: cs => (digits cs).filter (· < 2 ^ 64)
    | cs => (digits cs).filter (· < 2 ^ 64)
  parsed.filter (· < 2 ^ 32)

/-- `kMaxDisconnectTargets`. -/
def maxDisconnectTargets : ℕ := 200

/-- `kMaxAnnouncementTextBytes`. -/
def maxAnnouncementTextBytes : ℕ := 512

/-- The users that a request names, each once. -/
def requestTargets (params : Fields) : Except String (List String) :=
  let one := ((params.lookup "client_id").map trimAscii).toList.filter (· ≠ "")
  let targets := one ++ csvField params "client_ids"
  let valid := (targets.map trimAscii).filter fun target =>
    target ≠ "" ∧ '/' ∉ target.toList ∧ target.length ≤ 128
  let deduped := valid.foldl (fun acc target => if target ∈ acc then acc else acc ++ [target]) []
  if targets = [] then .error "client_id or client_ids is required"
  else if deduped = [] then .error "no valid client ids provided"
  else if maxDisconnectTargets < deduped.length then .error "too many client ids"
  else .ok deduped

/-- The selector of a request. -/
def requestSelector (params : Fields) : Except String SelectorParse :=
  if (parseSelector params).valid then .ok (parseSelector params)
  else .error "all must be a boolean value"

/-- Add the names of servers to a command, if there are any. -/
def appendCsvField (key : String) (values : List String) (f : Fields) : Fields :=
  if values = [] then f else f.insert key (joinCsv values)

/-- `append_selector_command_fields`. -/
def appendSelectorFields (parse : SelectorParse) (f : Fields) : Fields :=
  if parse.specified then
    let s := parse.selector
    let f' := if parse.allSpecified then f.insert "all" (if s.all then "1" else "0") else f
    appendCsvField "tags" s.tags (appendCsvField "shards" s.shards
      (appendCsvField "regions" s.regions (appendCsvField "game_modes" s.gameModes
        (appendCsvField "roles" s.roles (appendCsvField "server_ids" s.serverIds f')))))
  else f

/-- The fields that every command has. -/
def commandFields (op actor requestId : String) : Fields :=
  (((∅ : Fields).insert "op" op).insert "actor" (sanitizeSingleLine actor)).insert "request_id"
    ("admin-" ++ requestId)

/-! ### The handlers -/

section

variable (actor : String) (requestId : ℕ)

/-- `handle_disconnect_users`. -/
def handleDisconnectUsers (params : Fields) : Except String Fields := do
  let selector ← requestSelector params
  let targets ← requestTargets params
  let given := sanitizeSingleLine ((params.lookup "reason").getD "")
  let reason := truncate 200 (if given = "" then "Disconnected by administrator" else given)
  return appendSelectorFields selector
    (((commandFields "disconnect" actor (toString requestId)).insert "reason"
      (sanitizeSingleLine reason)).insert "client_ids" (joinCsv targets))

/-- The priority of an announcement. -/
def announcementPriority (params : Fields) : String :=
  match params.lookup "priority" with
  | none => "info"
  | some text =>
    let normalized := toLowerAscii (trimAscii text)
    if normalized ∈ ["info", "warn", "critical"] then normalized else "info"

/-- `handle_announcement`. -/
def handleAnnouncement (params : Fields) : Except String Fields := do
  let selector ← requestSelector params
  let text := sanitizeSingleLine ((params.lookup "text").getD "")
  if text = "" then .error "text is required"
  else if maxAnnouncementTextBytes < text.length then .error "text is too long"
  else
    return appendSelectorFields selector
      (((commandFields "announce" actor (toString requestId)).insert "priority"
        (announcementPriority params)).insert "text" text)

/-- The bounds of the settings that can be changed. -/
structure RuntimeSettingRule where
  keyName : String
  minValue : ℕ
  maxValue : ℕ
  deriving DecidableEq, Repr

/-- `kRuntimeSettingRules`. -/
def runtimeSettingRules : List RuntimeSettingRule :=
  [⟨"presence_ttl_sec", 5, 3600⟩, ⟨"recent_history_limit", 5, 2000⟩,
    ⟨"room_recent_maxlen", 5, 5000⟩, ⟨"chat_spam_threshold", 3, 100⟩,
    ⟨"chat_spam_window_sec", 1, 120⟩, ⟨"chat_spam_mute_sec", 5, 86400⟩,
    ⟨"chat_spam_ban_sec", 10, 604800⟩, ⟨"chat_spam_ban_violations", 1, 20⟩]

/-- `handle_runtime_setting`. -/
def handleRuntimeSetting (params : Fields) : Except String Fields := do
  let selector ← requestSelector params
  let key := toLowerAscii (trimAscii ((params.lookup "key").getD ""))
  let value := trimAscii ((params.lookup "value").getD "")
  if key = "" ∨ value = "" then .error "key and value are required"
  else
    match parseU32Strict value with
    | none => .error "value must be an unsigned integer"
    | some parsed =>
      match runtimeSettingRules.find? (·.keyName = key) with
      | none => .error "unsupported setting key"
      | some rule =>
        if parsed < rule.minValue ∨ rule.maxValue < parsed then
          .error (rule.keyName ++ " must be " ++ toString rule.minValue ++ ".." ++
            toString rule.maxValue)
        else
          return appendSelectorFields selector
            (((commandFields "settings" actor (toString requestId)).insert "key"
              (sanitizeSingleLine key)).insert "value" (toString parsed))

/-- The duration of a moderation command. -/
def requestDuration (params : Fields) : Except String ℕ :=
  match params.lookup "duration_sec" with
  | none => .ok 0
  | some raw =>
    if raw = "" then .ok 0
    else
      match parseU32Strict (trimAscii raw) with
      | none => .error "duration_sec must be an unsigned integer"
      | some sec => .ok sec

/-- `handle_user_moderation`. -/
def handleUserModeration (op : ModerationOp) (params : Fields) : Except String Fields := do
  let selector ← requestSelector params
  let targets ← requestTargets params
  let durationSec ← requestDuration params
  let reason := truncate 200 (sanitizeSingleLine ((params.lookup "reason").getD ""))
  return appendSelectorFields selector
    ((((commandFields (sanitizeSingleLine op.text) actor (toString requestId)).insert
      "duration_sec" (toString durationSec)).insert "reason" reason).insert "client_ids"
        (joinCsv targets))

/-- `publish_ext_wave_command`. -/
def extWaveFields (w : ExtWave) : Fields :=
  let f := (((((((((((((commandFields (if w.rollback then "ext_rollback" else "ext_deploy") actor
      ("ext-" ++ w.commandId ++ "-wave-" ++ toString (w.waveIndex + 1))).insert
    "command_id" w.commandId).insert
    "artifact_id" w.artifactId).insert
    "kind" w.kind).insert
    "stage" w.stage).insert
    "priority" (toString w.priority)).insert
    "exclusive_group" w.exclusiveGroup).insert
    "hook_scope" (joinCsv w.hookScope)).insert
    "rollout_type" w.rolloutType).insert
    "wave_index" (toString (w.waveIndex + 1))).insert
    "wave_percent" (toString w.wavePercent)).insert
    "server_ids" (joinCsv w.serverIds)).insert
    "all" "0")
  match w.runAtUtc with
  | none => f
  | some t => f.insert "run_at_utc" (toString t)

/-- The fields of the command that a request gives. -/
def Request.fields : Request → Except String Fields
  | .disconnect params => handleDisconnectUsers actor requestId params
  | .announce params => handleAnnouncement actor requestId params
  | .settings params => handleRuntimeSetting actor requestId params
  | .moderation op params => handleUserModeration actor requestId op params
  | .ext wave => .ok (extWaveFields actor wave)

end

/-! ### Messages -/

/-- `build_signed_admin_message` on signed fields. -/
def adminMessage (signed : Fields) : String := "gw=admin_app\n" ++ toKvPayload signed

/-- `build_signed_admin_message`; none without a secret. -/
def buildSignedAdminMessage (hmac : Hmac) (secret : String) (f : Fields)
    (nowMs : ℕ) (fresh : String) : Option String :=
  (appendSignatureFields hmac f secret nowMs "" fresh).map adminMessage

/-- The tool has signed these fields for a request. -/
def Signed (hmac : Hmac) (secret : String) (r : Request) (g : Fields) : Prop :=
  ∃ actor requestId f nowMs fresh, r.fields actor requestId = .ok f ∧
    appendSignatureFields hmac f secret nowMs "" fresh = some g

/-! ### What is in a command -/

variable {hmac : Hmac}

section Lookup

variable {f g : Fields} {key : String}

theorem lookup_appendCsvField {k : String} (hk : key ≠ k) (values : List String) (f : Fields) :
    (appendCsvField k values f).lookup key = f.lookup key := by
  unfold appendCsvField
  split_ifs
  · rfl
  · simp [hk]

/-- A selector touches its own fields only. -/
theorem lookup_appendSelectorFields (hall : key ≠ "all") (hkey : key ∉ selectorKeys)
    (parse : SelectorParse) (f : Fields) :
    (appendSelectorFields parse f).lookup key = f.lookup key := by
  have hne : ∀ k ∈ selectorKeys, key ≠ k := fun k hk h => hkey (h ▸ hk)
  unfold appendSelectorFields
  by_cases hspecified : parse.specified = true
  · rw [if_pos hspecified]
    simp (disch := exact hne _ (by decide)) only [lookup_appendCsvField]
    by_cases hflag : parse.allSpecified = true
    · simp [hflag, hall]
    · simp [hflag]
  · rw [if_neg hspecified]

/-- Signing adds the time, the nonce and the signature. -/
theorem lookup_of_appendSignatureFields {secret nonce fresh : String} {nowMs : ℕ}
    (hissued : key ≠ "issued_at") (hnonce : key ≠ "nonce") (hsignature : key ≠ "signature")
    (h : appendSignatureFields hmac f secret nowMs nonce fresh = some g) :
    g.lookup key = f.lookup key := by
  unfold appendSignatureFields at h
  by_cases hsecret : secret = ""
  · rw [if_pos hsecret] at h
    cases h
  dsimp only at h
  generalize (if nonce = "" then fresh else nonce) = n at h
  split_ifs at h
  obtain rfl := Option.some.inj h
  simp [hissued, hnonce, hsignature]

end Lookup

/-- The fields that tell the commands apart. -/
structure CommandKeys where
  op : Option String
  clientIds : Bool
  text : Bool
  setting : Bool
  deriving DecidableEq, Repr

/-- Which of these fields a command has. -/
def Fields.commandKeys (f : Fields) : CommandKeys where
  op := f.lookup "op"
  clientIds := (f.lookup "client_ids").isSome
  text := (f.lookup "text").isSome
  setting := (f.lookup "key").isSome && (f.lookup "value").isSome

/-- Which of these fields the command of a request has. -/
def Request.commandKeys : Request → CommandKeys
  | .disconnect _ => ⟨some "disconnect", true, false, false⟩
  | .announce _ => ⟨some "announce", false, true, false⟩
  | .settings _ => ⟨some "settings", false, false, true⟩
  | .moderation op _ => ⟨some op.text, true, false, false⟩
  | .ext w => ⟨some (if w.rollback then "ext_rollback" else "ext_deploy"), false, false, false⟩

/-- A step of a handler that succeeded. -/
theorem ok_of_bind {α β : Type} {x : Except String α} {p : α → Except String β} {b : β}
    (h : x >>= p = .ok b) : ∃ a, x = .ok a ∧ p a = .ok b := by
  cases x with
  | error e => cases h
  | ok a => exact ⟨a, rfl, h⟩

theorem ModerationOp.sanitize_text {op : ModerationOp} : sanitizeSingleLine op.text = op.text := by
  cases op <;> decide +kernel

/-- **Commands are told apart by their fields.** -/
theorem Request.commandKeys_of_fields {r : Request} {actor : String} {requestId : ℕ} {f : Fields}
    (h : r.fields actor requestId = .ok f) : f.commandKeys = r.commandKeys := by
  have hselector : ∀ (parse : SelectorParse) (f : Fields),
      (appendSelectorFields parse f).commandKeys = f.commandKeys := by
    intro parse f
    unfold Fields.commandKeys
    simp (disch := decide) only [lookup_appendSelectorFields]
  cases r with
  | disconnect params =>
    obtain ⟨selector, -, h⟩ := ok_of_bind h
    obtain ⟨targets, -, h⟩ := ok_of_bind h
    obtain rfl := Except.ok.inj h
    rw [hselector]
    simp [Fields.commandKeys, commandKeys, commandFields]
  | announce params =>
    obtain ⟨selector, -, h⟩ := ok_of_bind h
    dsimp only at h
    split_ifs at h
    obtain rfl := Except.ok.inj h
    rw [hselector]
    simp [Fields.commandKeys, commandKeys, commandFields]
  | settings params =>
    obtain ⟨selector, -, h⟩ := ok_of_bind h
    dsimp only at h
    split_ifs at h
    split at h
    · cases h
    split at h
    · cases h
    split_ifs at h
    obtain rfl := Except.ok.inj h
    rw [hselector]
    simp [Fields.commandKeys, commandKeys, commandFields]
  | moderation op params =>
    obtain ⟨selector, -, h⟩ := ok_of_bind h
    obtain ⟨targets, -, h⟩ := ok_of_bind h
    obtain ⟨durationSec, -, h⟩ := ok_of_bind h
    obtain rfl := Except.ok.inj h
    rw [hselector]
    simp [Fields.commandKeys, commandKeys, commandFields, ModerationOp.sanitize_text]
  | ext wave =>
    obtain rfl := Except.ok.inj h
    unfold extWaveFields
    cases wave.runAtUtc <;> simp [Fields.commandKeys, commandKeys, commandFields]

/-- The same for what was signed. -/
theorem Signed.commandKeys_eq {secret : String} {r : Request} {g : Fields}
    (h : Signed hmac secret r g) : g.commandKeys = r.commandKeys := by
  obtain ⟨actor, requestId, f, nowMs, fresh, hfields, hsign⟩ := h
  rw [← Request.commandKeys_of_fields hfields]
  unfold Fields.commandKeys
  simp (disch := first | exact hsign | decide) only [lookup_of_appendSignatureFields (f := f)]

end Knights.Admin
