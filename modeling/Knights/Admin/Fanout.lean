import Knights.Admin.Commands

namespace Knights.Admin

open Lib List
open Chat (startsWith stoul toLowerAscii)

/-!
# What servers do with what is published

Every server listens on all fanout channels.  A message starts with the id of its sender, and a
server ignores its own messages.  What it does with a message depends on the channel; commands
of administrators are verified first.

* `onFanout` is the handler, `fanoutServer` the machine of a server that gets messages;
* `commands_keep_channel` — a command that is applied was made for the channel it came on, if
  fields fit on their lines and what comes on the channels `disconnect` and `moderation` names an
  operation of that channel.
-/

/-! ### Reading a message -/

/-- One line of `parse_kv_lines`. -/
def insertLine (f : Fields) (line : List Char) : Fields :=
  match kvCut '=' line with
  | none => f
  | some e =>
    let key := trimAscii (String.ofList e.1)
    if key = "" then f else f.insert key (trimAscii (String.ofList e.2))

/-- `parse_kv_lines`. -/
def parseKvLines (payload : String) : Fields :=
  (payload.toList.splitOn '\n').foldl insertLine ∅

variable {f : Fields}

/-- Trimming leaves nothing in a text that was not there. -/
theorem mem_of_mem_trimmed {cs : List Char} {c : Char}
    (h : c ∈ (trimAscii (String.ofList cs)).toList) : c ∈ cs := by
  have hmem := mem_of_mem_trimAscii h
  rwa [String.toList_ofList] at hmem

theorem kvClean_trimmed {key value : List Char} (h : KvClean '=' '\n' key value) :
    KvClean '=' '\n' (trimAscii (String.ofList key)).toList
      (trimAscii (String.ofList value)).toList := by
  refine ⟨fun hmem => ?_, fun hmem => ?_, fun hmem => ?_⟩
  · exact h.mark_key (mem_of_mem_trimmed hmem)
  · exact h.brk_key (mem_of_mem_trimmed hmem)
  · exact h.brk_value (mem_of_mem_trimmed hmem)

/-- **What holds of trimmed lines holds of what is read from them.** -/
theorem each_parseKvLines {P : String → String → Prop}
    (hP : ∀ key value : List Char, KvClean '=' '\n' key value →
      P (trimAscii (String.ofList key)) (trimAscii (String.ofList value))) (payload : String) :
    (parseKvLines payload).Each P := by
  have hline : ∀ (f : Fields) line, '\n' ∉ line → f.Each P → (insertLine f line).Each P := by
    intro f line hline hf
    unfold insertLine
    cases hcut : kvCut '=' line with
    | none => exact hf
    | some e =>
      dsimp only
      split_ifs
      · exact hf
      · exact hf.insert (hP e.1 e.2 (kvClean_of_kvCut hline hcut))
  have hlines : ∀ line ∈ payload.toList.splitOn '\n', '\n' ∉ line :=
    fun line hline => notMem_of_mem_splitOn hline
  have hempty : Fields.Each P ∅ := Fields.each_empty
  unfold parseKvLines
  generalize payload.toList.splitOn '\n' = lines at hlines
  generalize (∅ : Fields) = f at hempty
  induction lines generalizing f with
  | nil => exact hempty
  | cons line lines ih =>
    rw [foldl_cons]
    apply ih
    · exact fun l hl => hlines l (mem_cons_of_mem line hl)
    · exact hline f line (hlines line mem_cons_self) hempty

/-- **What is read from lines fits on lines.** -/
theorem clean_parseKvLines {payload : String} : (parseKvLines payload).Clean := by
  unfold Fields.Clean
  rw [Prod.forall]
  simp only [Fields.mem_pairs]
  intro k v hkv _
  exact each_parseKvLines (P := fun k v => KvClean '=' '\n' k.toList v.toList)
    (fun _ _ => kvClean_trimmed) payload k v hkv

/-- The sender of a message, and what follows its line. -/
def openEnvelope (message : String) : Option (String × Option String) :=
  if startsWith "gw=" message then
    let rest := message.toList.drop 3
    some (String.ofList (rest.takeWhile (· ≠ '\n')),
      match rest.dropWhile (· ≠ '\n') with
      | [] => none
      | _ :: payload => some (String.ofList payload))
  else none

theorem openEnvelope_eq {sender : String} (h : '\n' ∉ sender.toList) (payload : String) :
    openEnvelope ("gw=" ++ sender ++ "\n" ++ payload) = some (sender, some payload) := by
  have hlist : ("gw=" ++ sender ++ "\n" ++ payload).toList =
      ['g', 'w', '='] ++ (sender.toList ++ '\n' :: payload.toList) := by
    simp
  have hid : ∀ c ∈ sender.toList, decide (c ≠ '\n') = true := by
    intro c hc
    simpa using fun heq : c = '\n' => h (heq ▸ hc)
  have hstart : startsWith "gw=" ("gw=" ++ sender ++ "\n" ++ payload) = true := by
    rw [startsWith, hlist, isPrefixOf_iff_prefix]
    exact prefix_append _ _
  have hdrop : ("gw=" ++ sender ++ "\n" ++ payload).toList.drop 3 =
      sender.toList ++ '\n' :: payload.toList := by
    rw [hlist]
    rfl
  unfold openEnvelope
  rw [if_pos hstart, hdrop]
  dsimp only
  rw [takeWhile_append_of_pos hid, dropWhile_append_of_pos hid]
  simp

/-! ### The handler -/

/-- What a server does with a message. -/
inductive FanoutAction
  | refresh (room : String)
  | line (room body : String)
  | whisper (body : String)
  | disconnect (users : List String) (reason : String)
  | announce (text : String)
  | setting (key value : String)
  | moderation (op : String) (users : List String) (durationSec : ℕ) (reason : String)
  deriving DecidableEq, Repr

/-- What a server knows itself by. -/
structure FanoutConfig where
  redisChannelPrefix : String := ""
  gatewayId : String
  record : InstanceRecord := {}

/-- The last part of a channel's name. -/
def AdminChannel.suffix : AdminChannel → String
  | .disconnect => "fanout:admin:disconnect"
  | .announce => "fanout:admin:announce"
  | .settings => "fanout:admin:settings"
  | .moderation => "fanout:admin:moderation"

/-- A field that is there and not empty. -/
def Fields.given (f : Fields) (key : String) : Option String := (f.lookup key).filter (· ≠ "")

/-- The users in `client_ids`, if there are any. -/
def Fields.users (f : Fields) : Option (List String) :=
  ((f.given "client_ids").map splitCsv).filter (· ≠ [])

/-- What a verified command does on a channel. -/
def adminAction (f : Fields) : AdminChannel → Option FanoutAction
  | .disconnect => f.users.map fun users =>
      .disconnect users ((f.given "reason").getD "Disconnected by administrator")
  | .announce => (f.given "text").map .announce
  | .settings => (f.given "key").bind fun key => (f.given "value").map (.setting key)
  | .moderation => (f.given "op").bind fun op => f.users.map fun users =>
      .moderation op users ((((f.given "duration_sec").bind stoul).getD 0) % 2 ^ 32)
        ((f.lookup "reason").getD "")

variable (hmac : Hmac) (fc : FanoutConfig) {v : Verifier} {r : Request}
  {ch : AdminChannel} {a : FanoutAction}

/-- A command: it is verified, and ignored if it is for other servers. -/
def onAdminCommand (v : Verifier) (ch : AdminChannel) (payload : String) (now : ℕ) :
    Verifier × Option FanoutAction :=
  let f := parseKvLines payload
  let r := v.verify hmac f now
  if r.2 = .ok ∧ isTarget fc.record f then (r.1, adminAction f ch) else (r.1, none)

/-- The channels whose names are looked up as they are; `none` is that of whispers. -/
def exactChannels : List (String × Option AdminChannel) :=
  [("fanout:whisper", none), (AdminChannel.suffix .disconnect, some .disconnect),
    (AdminChannel.suffix .announce, some .announce),
    (AdminChannel.suffix .settings, some .settings),
    (AdminChannel.suffix .moderation, some .moderation)]

/-- The handler of `start_psubscribe`. -/
def onFanout (v : Verifier) (channel message : String) (now : ℕ) : Verifier × Option FanoutAction :=
  match openEnvelope message with
  | none => (v, none)
  | some (sender, payload) =>
    if sender = fc.gatewayId then (v, none)
    else
      let refreshPrefix := fc.redisChannelPrefix ++ "fanout:refresh:"
      let roomPrefix := fc.redisChannelPrefix ++ "fanout:room:"
      let roomAfter (pre : String) : String := String.ofList (channel.toList.drop pre.length)
      if startsWith refreshPrefix channel then (v, some (.refresh (roomAfter refreshPrefix)))
      else if startsWith roomPrefix channel then
        (v, payload.map (.line (roomAfter roomPrefix)))
      else
        match exactChannels.find? (fun e => channel = fc.redisChannelPrefix ++ e.1), payload with
        | some (_, some ch), some payload => onAdminCommand hmac fc v ch payload now
        | some (_, none), some payload => (v, some (.whisper payload))
        | _, _ => (v, none)

/-- A message on a channel, and when it arrives. -/
structure Delivery where
  channel : String
  message : String
  now : ℕ

/-- A server that gets messages. -/
def fanoutServer : Machine Verifier Delivery (Option FanoutAction) :=
  ⟨fun v d => onFanout hmac fc v d.channel d.message d.now⟩

/-! ### Channels -/

/-- The name of a channel. -/
def FanoutConfig.channelName (ch : AdminChannel) : String := fc.redisChannelPrefix ++ ch.suffix

/-- What follows the sender in a message. -/
def Delivery.payload (d : Delivery) : Option String := (openEnvelope d.message).bind (·.2)

theorem startsWith_append_append (p a b : String) :
    startsWith (p ++ a) (p ++ b) = startsWith a b := by
  rw [Bool.eq_iff_iff]
  simp [startsWith, isPrefixOf_iff_prefix, prefix_append_right_inj]

/-- A channel is found under its name. -/
theorem find_exactChannels (ch : AdminChannel) :
    exactChannels.find? (fun e => fc.channelName ch = fc.redisChannelPrefix ++ e.1) =
      some (ch.suffix, some ch) := by
  have hname : ∀ e : String × Option AdminChannel,
      decide (fc.channelName ch = fc.redisChannelPrefix ++ e.1) = decide (ch.suffix = e.1) := by
    intro e
    simp [FanoutConfig.channelName]
  simp only [hname]
  cases ch <;> decide

variable {hmac fc}

/-- What is applied from a channel is a command that was verified and is for this server. -/
theorem verified_of_onFanout {d : Delivery} (hch : d.channel = fc.channelName ch)
    (h : (onFanout hmac fc v d.channel d.message d.now).2 = some a) : ∃ payload,
      d.payload = some payload ∧ (v.verify hmac (parseKvLines payload) d.now).2 = .ok ∧
        isTarget fc.record (parseKvLines payload) = true ∧
          adminAction (parseKvLines payload) ch = some a := by
  have hrefresh : startsWith (fc.redisChannelPrefix ++ "fanout:refresh:") (fc.channelName ch) =
      false := by
    unfold FanoutConfig.channelName
    rw [startsWith_append_append]
    cases ch <;> decide
  have hroom : startsWith (fc.redisChannelPrefix ++ "fanout:room:") (fc.channelName ch) =
      false := by
    unfold FanoutConfig.channelName
    rw [startsWith_append_append]
    cases ch <;> decide
  unfold Delivery.payload
  unfold onFanout at h
  rw [hch] at h
  cases hopen : openEnvelope d.message with
  | none =>
    rw [hopen] at h
    cases h
  | some sp =>
    obtain ⟨sender, payload⟩ := sp
    rw [hopen] at h
    dsimp only at h
    by_cases hself : sender = fc.gatewayId
    · rw [if_pos hself] at h
      cases h
    rw [if_neg hself, hrefresh, hroom, find_exactChannels] at h
    cases payload with
    | none => cases h
    | some payload =>
      refine ⟨payload, rfl, ?_⟩
      simp only [Bool.false_eq_true, if_false] at h
      unfold onAdminCommand at h
      dsimp only at h
      split_ifs at h with hok
      exact ⟨hok.1, hok.2, h⟩

/-- A command does the same with another signature. -/
theorem adminAction_congr {g : Fields} (h : f.AgreeUnsigned g) (ch : AdminChannel) :
    adminAction f ch = adminAction g ch := by
  have hgiven : ∀ key, key ≠ "signature" → f.given key = g.given key := by
    intro key hkey
    unfold Fields.given
    rw [h key hkey]
  have husers : f.users = g.users := by
    unfold Fields.users
    rw [hgiven "client_ids" (by decide)]
  cases ch with
  | disconnect =>
    unfold adminAction
    rw [husers, hgiven "reason" (by decide)]
  | announce =>
    unfold adminAction
    rw [hgiven "text" (by decide)]
  | settings =>
    unfold adminAction
    rw [hgiven "key" (by decide), hgiven "value" (by decide)]
  | moderation =>
    unfold adminAction
    rw [hgiven "op" (by decide), husers, hgiven "duration_sec" (by decide), h "reason" (by decide)]

/-- The field `op` names an operation of the channel.  A command is handed on whatever it
    names. -/
def AdminChannel.Knows : AdminChannel → Option String → Prop
  | .disconnect, op => op = some "disconnect"
  | .moderation, op =>
    toLowerAscii (trimAscii (op.getD "")) ∈ ["mute", "unmute", "ban", "unban", "kick"]
  | _, _ => True

theorem isSome_of_given {key value : String} (h : f.given key = some value) :
    f.lookup key = some value := (Option.filter_eq_some_iff.mp h).1

/-- Users are read from `client_ids`. -/
theorem clientIds_of_users {users : List String} (h : f.users = some users) :
    f.commandKeys.clientIds = true := by
  obtain ⟨hmap, -⟩ := Option.filter_eq_some_iff.mp h
  obtain ⟨ids, hids, -⟩ := Option.map_eq_some_iff.mp hmap
  show (f.lookup "client_ids").isSome = true
  rw [isSome_of_given hids]
  rfl

/-- **A command fits its channel.** The fields that a channel asks for are in commands for that
    channel only; but for a disconnect, anything with `client_ids` will do, and for moderation
    anything that also has an `op`. -/
theorem channel_of_adminAction {secret : String} {g : Fields} (hr : Signed hmac secret r g)
    (h : adminAction g ch = some a) (hop : ch.Knows (g.lookup "op")) :
    r.channel = some ch := by
  have hkeys := hr.commandKeys_eq
  have hkeysOp : g.lookup "op" = r.commandKeys.op := congrArg CommandKeys.op hkeys
  cases ch with
  | disconnect =>
    obtain ⟨users, husers, -⟩ := Option.map_eq_some_iff.mp h
    have hclient := clientIds_of_users husers
    rw [hkeys] at hclient
    rw [show g.lookup "op" = some "disconnect" from hop] at hkeysOp
    cases r with
    | disconnect params => rfl
    | moderation op params =>
      have hne : op.text ≠ "disconnect" := by cases op <;> decide
      exact absurd (Option.some.inj hkeysOp).symm hne
    | announce | settings | ext => cases hclient
  | announce =>
    obtain ⟨text, htext, -⟩ := Option.map_eq_some_iff.mp h
    have hfound : g.commandKeys.text = true := by
      show (g.lookup "text").isSome = true
      rw [isSome_of_given htext]
      rfl
    rw [hkeys] at hfound
    cases r with
    | announce params => rfl
    | disconnect | moderation | settings | ext => cases hfound
  | settings =>
    obtain ⟨key, hkey, hvalue⟩ := Option.bind_eq_some_iff.mp h
    obtain ⟨value, hvalue, -⟩ := Option.map_eq_some_iff.mp hvalue
    have hfound : g.commandKeys.setting = true := by
      show ((g.lookup "key").isSome && (g.lookup "value").isSome) = true
      rw [isSome_of_given hkey, isSome_of_given hvalue]
      rfl
    rw [hkeys] at hfound
    cases r with
    | settings params => rfl
    | disconnect | moderation | announce | ext => cases hfound
  | moderation =>
    obtain ⟨op, -, hmap⟩ := Option.bind_eq_some_iff.mp h
    obtain ⟨users, husers, -⟩ := Option.map_eq_some_iff.mp hmap
    have hclient := clientIds_of_users husers
    rw [hkeys] at hclient
    rw [hkeysOp] at hop
    cases r with
    | moderation op' params => rfl
    | disconnect params =>
      -- the operation of such a command is none that moderation knows
      have hnone : toLowerAscii (trimAscii "disconnect") ∉
          ["mute", "unmute", "ban", "unban", "kick"] := by decide +kernel
      exact absurd hop hnone
    | announce | settings | ext => cases hclient

/-! ### Commands and the channels they were made for -/

@[simp] theorem secret_onFanout {channel message : String} {now : ℕ} :
    (onFanout hmac fc v channel message now).1.secret = v.secret := by
  have hadmin : ∀ ch payload, (onAdminCommand hmac fc v ch payload now).1.secret = v.secret := by
    intro ch payload
    unfold onAdminCommand
    dsimp only
    split_ifs <;> exact (Verifier.same_verify hmac v _ now).2
  unfold onFanout
  split
  · rfl
  · dsimp only
    split_ifs
    · rfl
    · rfl
    · rfl
    · split
      · exact hadmin _ _
      · rfl
      · rfl

theorem secret_run {ds : List Delivery} : ((fanoutServer hmac fc).run v ds).secret = v.secret := by
  refine (fanoutServer hmac fc).run_invariant (fun w => w.secret = v.secret) ?_ rfl ds
  intro w d hw
  exact secret_onFanout.trans hw

/-- **Commands keep to their channels.** `built` are the commands that the administrator's tool
    has signed.  Whatever arrives on whatever channel, a command that a server applies is one of
    them and was made for the channel it came on, provided that signatures cannot be forged,
    that fields fit on their lines, and that what comes on the channels `disconnect` and
    `moderation` names an operation of that channel. -/
theorem commands_keep_channel (hmac : Hmac) (fc : FanoutConfig)
    (v : Verifier) (built : Set (Request × Fields))
    (hbuilt : ∀ b ∈ built, Signed hmac v.secret b.1 b.2) (hclean : ∀ b ∈ built, b.2.Clean)
    (ds : List Delivery)
    (hforge : ∀ d ∈ ds, ∀ payload, d.payload = some payload →
      Unforgeable hmac v.secret (Prod.snd '' built) (parseKvLines payload))
    (hop : ∀ d ∈ ds, ∀ ch, d.channel = fc.channelName ch → ∀ payload, d.payload = some payload →
      ch.Knows ((parseKvLines payload).lookup "op")) :
    ∀ e ∈ (fanoutServer hmac fc).trace v ds, ∀ ch a, e.input.channel = fc.channelName ch →
      e.output = some a → ∃ b ∈ built, b.1.channel = some ch ∧ adminAction b.2 ch = some a := by
  intro e he ch a hch hout
  obtain ⟨pre, post, hds, hpre, hstep⟩ := (fanoutServer hmac fc).mem_trace.mp he
  have hmem : e.input ∈ ds := by simp [hds]
  have hsecret : e.pre.secret = v.secret := hpre ▸ secret_run
  obtain ⟨payload, hpayload, hok, -, haction⟩ := verified_of_onFanout hch (hstep.symm.trans hout)
  obtain ⟨nonce, issuedAtMs, hpasses, -⟩ := Verifier.passes_of_ok hok
  have hsigned := hpasses.signature
  rw [hsecret] at hsigned
  -- the signature was made for a command of the tool, and what was signed are its fields
  obtain ⟨g, ⟨b, hb, rfl⟩, htext⟩ := hforge e.input hmem payload hpayload hsigned
  have hagree : (parseKvLines payload).AgreeUnsigned b.2 :=
    agreeUnsigned_of_canonical clean_parseKvLines (hclean b hb) htext.symm
  rw [adminAction_congr hagree] at haction
  refine ⟨b, hb, channel_of_adminAction (hbuilt b hb) haction ?_, haction⟩
  rw [← hagree "op" (by decide)]
  exact hop e.input hmem ch hch payload hpayload

/-- A keyed text in the place of an HMAC, on one line. -/
def sampleHmac (secret text : String) : String :=
  String.ofList (secret.toList ++ text.toList.map fun c => if c = '\n' then ';' else c)

/-- A server that is named by no selector. -/
def FanoutConfig.sample : FanoutConfig := ⟨"", "server-1", ⟨"server-1", "chat", "", "", "", []⟩⟩

/-- An announcement and a mute. -/
def helloRequest : Request := .announce ((∅ : Fields).insert "text" "hello")
def muteRequest : Request := .moderation .mute ((∅ : Fields).insert "client_id" "alice")

/-- The fields of the command for a request, and the same signed. -/
def unsignedFields (r : Request) : Fields := (r.fields "admin" 1).toOption.getD ∅
def signedFields (r : Request) : Fields :=
  (appendSignatureFields sampleHmac (unsignedFields r) "key" 7 "" "n1").getD ∅

theorem fields_unsignedFields (hr : (r.fields "admin" 1).isOk = true) :
    r.fields "admin" 1 = .ok (unsignedFields r) := by
  unfold unsignedFields
  cases hf : r.fields "admin" 1 with
  | error e =>
    rw [hf] at hr
    cases hr
  | ok f => rfl

theorem signed_signedFields (hr : (r.fields "admin" 1).isOk = true)
    (hsign : (appendSignatureFields sampleHmac (unsignedFields r) "key" 7 "" "n1").isSome) :
    Signed sampleHmac "key" r (signedFields r) := by
  refine ⟨"admin", 1, unsignedFields r, 7, "n1", fields_unsignedFields hr, ?_⟩
  obtain ⟨g, hg⟩ := Option.isSome_iff_exists.mp hsign
  unfold signedFields
  rw [hg]
  rfl

/-- The announcement, delivered on its channel. -/
def helloDelivery : Delivery :=
  ⟨"fanout:admin:announce", adminMessage (signedFields helloRequest), 7⟩

theorem canonical_helloDelivery {payload : String} (h : helloDelivery.payload = some payload) :
    canonicalSigningData (signedFields helloRequest) =
      canonicalSigningData (parseKvLines payload) := by
  have hsome : helloDelivery.payload = some (toKvPayload (signedFields helloRequest)) := by
    decide +kernel
  obtain rfl := Option.mem_unique hsome h
  decide +kernel

theorem commands_keep_channel_announcement :
    ((fanoutServer sampleHmac .sample).trace ⟨"key", {}, ∅⟩ [helloDelivery]).map Event.output =
        [some (.announce "hello")] ∧
      ∃ b ∈ ({(helloRequest, signedFields helloRequest)} : Set (Request × Fields)),
        b.1.channel = some .announce ∧ adminAction b.2 .announce = some (.announce "hello") := by
  have hsigned : Signed sampleHmac "key" helloRequest (signedFields helloRequest) :=
    signed_signedFields (by decide +kernel) (by decide +kernel)
  have hclean : (signedFields helloRequest).Clean := by decide +kernel
  have htrace : ((fanoutServer sampleHmac .sample).trace ⟨"key", {}, ∅⟩ [helloDelivery]).map
      Event.output = [some (.announce "hello")] := by decide +kernel
  refine ⟨htrace, ?_⟩
  refine commands_keep_channel sampleHmac .sample ⟨"key", {}, ∅⟩
    {(helloRequest, signedFields helloRequest)} ?_ ?_ [helloDelivery] ?_ ?_
    ⟨⟨"key", {}, ∅⟩, helloDelivery, _⟩ mem_cons_self .announce (.announce "hello") rfl ?_
  · intro b hb
    rw [Set.mem_singleton_iff.mp hb]
    exact hsigned
  · intro b hb
    rw [Set.mem_singleton_iff.mp hb]
    exact hclean
  · intro d hd payload hpayload _
    rw [mem_singleton.mp hd] at hpayload
    exact ⟨signedFields helloRequest, Set.mem_image_of_mem Prod.snd (Set.mem_singleton _),
      canonical_helloDelivery hpayload⟩
  · intro d hd ch hch _ _
    rw [mem_singleton.mp hd] at hch
    cases ch with
    | announce | settings => trivial
    | disconnect | moderation => exact absurd hch (by decide +kernel)
  · exact (cons.inj htrace).1

/-- A mute that is published again on another channel disconnects the user. -/
theorem mute_disconnects :
    muteRequest.channel = some .moderation ∧ (signedFields muteRequest).Clean ∧
      (signedFields muteRequest).lookup "op" = some "mute" ∧
      ((fanoutServer sampleHmac .sample).trace ⟨"key", {}, ∅⟩
        [⟨"fanout:admin:disconnect", adminMessage (signedFields muteRequest), 7⟩]).map
          Event.output = [some (.disconnect ["alice"] "Disconnected by administrator")] := by
  decide +kernel

end Knights.Admin
