import Knights.Lib.Machine
import Knights.Lib.Table

namespace Knights.Chat

open Lib List

/-!
# Plugins of the older kind

`PluginHost::poll_reload` loads the plugins of a chat hook chain.  A plugin of version 1 is used
through a table of version 2, which `adapt_v1_api_to_v2` makes of its table and keeps for good,
under the address of the original.

* `adapter_fresh_iff` — the resolver answers with the functions of a plugin's own table exactly if
  the first table of version 1 that it was ever given at this address had the same ones;
* `adapter_stale` — a plugin that is mapped where an unloaded one was gets the functions of that.
-/

/-- A table of functions, which are in `F`; a null pointer is `none`.  A table of version 1 ends at
    `onChatSend`. -/
structure ChatHookApi (F : Type) where
  abiVersion : ℕ
  name : Option String := none
  version : Option String := none
  create : Option F := none
  destroy : Option F := none
  onChatSend : Option F
  onLogin : Option F := none
  onJoin : Option F := none
  onLeave : Option F := none
  onSessionEvent : Option F := none
  onAdminCommand : Option F := none
  deriving DecidableEq, Repr

/-- The table of version 2 with the functions of one of version 1. -/
def ChatHookApi.adapted {F : Type} (api : ChatHookApi F) : ChatHookApi F where
  abiVersion := 2
  name := api.name
  version := api.version
  create := api.create
  destroy := api.destroy
  onChatSend := api.onChatSend

/-- What the entry point of an opened library gives: a table has an address. -/
inductive PluginEntry (F : Type)
  | throws
  | null
  | table (addr : ℕ) (api : ChatHookApi F)

/-- What a host finds when it polls its file. -/
structure PluginPoll (F : Type) where
  present : Bool := true
  locked : Bool := false
  mtime : Option ℕ
  /-- There is a directory for the copy, and the file was copied there. -/
  copied : Bool := true
  /-- The copy was opened and has one of the entry points. -/
  opened : Bool := true
  entry : PluginEntry F
  createThrows : Bool := false

/-- `LoadedPlugin`, with the address of the table of its library. -/
structure LoadedPlugin (F : Type) where
  addr : ℕ
  api : ChatHookApi F
  deriving DecidableEq, Repr

structure PluginHost (F : Type) where
  lastAttemptMtime : Option ℕ := none
  current : Option (LoadedPlugin F) := none
  deriving DecidableEq, Repr

/-- The hosts of a chain by their files, and the cache of `adapt_v1_api_to_v2`. -/
structure PluginChain (F : Type) where
  cache : Table ℕ (ChatHookApi F) := ∅
  hosts : Table String (PluginHost F) := ∅

/-- A table of version 1 that the resolver was given, and its answer. -/
structure Adaptation (F : Type) where
  addr : ℕ
  table : ChatHookApi F
  answer : ChatHookApi F
  deriving DecidableEq, Repr

namespace PluginChain

variable {F : Type} (cache : Table ℕ (ChatHookApi F))

/-- `adapt_v1_api_to_v2`: a table is made only if the address has none. -/
def adaptV1ApiToV2 (addr : ℕ) (api : ChatHookApi F) : Table ℕ (ChatHookApi F) × ChatHookApi F :=
  match cache.lookup addr with
  | some adapted => (cache, adapted)
  | none => (cache.insert addr api.adapted, api.adapted)

/-- `api_resolver`. -/
def apiResolver : PluginEntry F → Table ℕ (ChatHookApi F) × Except String (ChatHookApi F)
  | .throws => (cache, .error "entrypoint threw exception")
  | .null => (cache, .error "null api")
  | .table addr api =>
    if api.abiVersion = 2 then (cache, .ok api)
    else if api.abiVersion = 1 then
      ((adaptV1ApiToV2 cache addr api).1, .ok (adaptV1ApiToV2 cache addr api).2)
    else (cache, .error "abi mismatch; expected v1 or v2")

/-- The table of version 1 among what the resolver is given. -/
def adaptations : PluginEntry F → List (Adaptation F)
  | .table addr api =>
    if api.abiVersion = 1 then [⟨addr, api, (adaptV1ApiToV2 cache addr api).2⟩] else []
  | _ => []

/-- `api_validator` and `instance_creator`: what they complain about. -/
def apiProblem (createThrows : Bool) (api : ChatHookApi F) : Option String :=
  if api.abiVersion ≠ 2 then some "abi mismatch; expected v2"
  else if api.onChatSend = none then some "api.on_chat_send is null"
  else if api.create ≠ none ∧ createThrows then some "api.create threw exception"
  else none

/-- What a host has after an attempt: the new plugin if it is of use, and the old one otherwise. -/
def attempted (host : PluginHost F) (p : PluginPoll F) : Option (LoadedPlugin F) :=
  match p.entry, (apiResolver cache p.entry).2 with
  | .table addr _, .ok api =>
    if apiProblem p.createThrows api = none then some ⟨addr, api⟩ else host.current
  | _, _ => host.current

/-- `PluginHost::poll_reload`.  A library that is replaced or of no use is unmapped. -/
def pollReload (host : PluginHost F) (path : String) (p : PluginPoll F) :
    PluginHost F × Table ℕ (ChatHookApi F) × List (Adaptation F) :=
  if path = "" ∨ ¬p.present ∨ p.locked ∨ p.mtime = none ∨ host.lastAttemptMtime = p.mtime then
    (host, cache, [])
  else if ¬p.copied ∨ ¬p.opened then ({ host with lastAttemptMtime := p.mtime }, cache, [])
  else (⟨p.mtime, attempted cache host p⟩, (apiResolver cache p.entry).1, adaptations cache p.entry)

inductive Input (F : Type)
  | poll (path : String) (p : PluginPoll F)
  /-- The file is gone, and its host with it. -/
  | drop (path : String)

/-- The chain over time; the outputs are the tables of version 1 that were adapted. -/
def machine : Machine (PluginChain F) (Input F) (List (Adaptation F)) where
  step c
    | .poll path p =>
      let r := pollReload c.cache ((c.hosts.lookup path).getD {}) path p
      (⟨r.2.1, c.hosts.insert path r.1⟩, r.2.2)
    | .drop path => ({ c with hosts := c.hosts.erase path }, [])

/-- Everything a step can do to the cache. -/
theorem step_cases (c : PluginChain F) (i : Input F) :
    ((machine.next c i).cache = c.cache ∧ (machine.step c i).2 = []) ∨
      ∃ addr api, (machine.next c i).cache = (adaptV1ApiToV2 c.cache addr api).1 ∧
        (machine.step c i).2 = [⟨addr, api, (adaptV1ApiToV2 c.cache addr api).2⟩] := by
  cases i with
  | drop path => exact .inl ⟨rfl, rfl⟩
  | poll path p =>
    simp only [Machine.next, machine, pollReload]
    split_ifs
    · exact .inl ⟨rfl, rfl⟩
    · exact .inl ⟨rfl, rfl⟩
    · cases p.entry with
      | table addr api =>
        simp only [apiResolver, adaptations]
        by_cases hv1 : api.abiVersion = 1
        · exact .inr ⟨addr, api, by simp [hv1]⟩
        · left
          simp only [hv1, if_false]
          split_ifs <;> simp
      | _ => exact .inl ⟨rfl, rfl⟩

/-- The cache has, for every address, the first table that was there. -/
theorem lookup_cache (is : List (Input F)) (addr : ℕ) :
    (machine.run {} is).cache.lookup addr =
      ((machine.outputs {} is).find? (·.addr = addr)).map fun a => a.table.adapted := by
  refine machine.outputs_invariant (fun seen (c : PluginChain F) => c.cache.lookup addr =
    (seen.find? (·.addr = addr)).map fun a => a.table.adapted) ?_ rfl is
  intro seen c i h
  obtain ⟨hcache, hout⟩ | ⟨addr', api, hcache, hout⟩ := step_cases c i
  · rw [hcache, hout, append_nil, h]
  · rw [hcache, hout, find?_append]
    unfold adaptV1ApiToV2
    by_cases haddr : addr' = addr
    · subst haddr
      cases hfind : seen.find? (·.addr = addr') <;> simp_all
    · have hnot : ¬addr = addr' := fun h => haddr h.symm
      split <;> simp [h, haddr, hnot]

/-- **When adapters are fresh.** After any sequence of loads and unloads, wherever the libraries
    were mapped, the answer for a table of version 1 has that table's functions if and only if the
    first table of version 1 at its address had the same. -/
theorem adapter_fresh_iff (is : List (Input F)) (i : Input F) (a : Adaptation F)
    (h : a ∈ (machine.step (machine.run {} is) i).2) :
    a.answer = a.table.adapted ↔
      ∀ first ∈ (machine.outputs {} is).find? (·.addr = a.addr),
        first.table.adapted = a.table.adapted := by
  obtain ⟨-, hout⟩ | ⟨addr, api, -, hout⟩ := step_cases (machine.run {} is) i
  · rw [hout] at h
    cases h
  · rw [hout, mem_singleton] at h
    subst h
    have hcache := lookup_cache is addr
    dsimp only
    unfold adaptV1ApiToV2
    cases hfind : (machine.outputs {} is).find? (·.addr = addr) <;>
      rw [hfind] at hcache <;> simp [hcache]

/-- A library with a table of version 1. -/
def legacy (mtime addr onChatSend : ℕ) : Input ℕ :=
  .poll "chat.so" {
    mtime := some mtime
    entry := .table addr { abiVersion := 1, onChatSend := some onChatSend } }

theorem adapter_fresh_iff_elsewhere :
    let a : Adaptation ℕ := ⟨200, { abiVersion := 1, onChatSend := some 2 },
      { abiVersion := 2, onChatSend := some 2 }⟩
    a.answer = a.table.adapted := by
  refine (adapter_fresh_iff [legacy 1 100 1] (legacy 2 200 2) _ ?_).mpr ?_
  · exact mem_singleton.mpr rfl
  · decide

/-- The plugin at 100 is replaced by one at 200, and this by a third that is mapped at 100 again:
    the chain calls the function of the first, which is gone. -/
theorem adapter_stale :
    (((machine.run {} [legacy 1 100 1, legacy 2 200 2]).hosts.lookup "chat.so").bind
      fun host => host.current.map (·.addr)) = some 200 ∧
    (machine.step (machine.run {} [legacy 1 100 1, legacy 2 200 2]) (legacy 3 100 3)).2.map
      (fun a => (a.table.onChatSend, a.answer.onChatSend)) = [(some 3, some 1)] := by
  decide +kernel

end PluginChain

end Knights.Chat
