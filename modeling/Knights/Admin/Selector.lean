import Knights.Lib.Decimal
import Knights.Chat.Commands
import Knights.Admin.CommandAuth

namespace Knights.Admin

open Lib List
open Chat (toLowerAscii)

/-!
# Which servers a command is for

A command may name the servers that are to carry it out, by id, role, game mode, region, shard
or tag.  The fields are read in the same way where a command is made and where it arrives.
-/

/-! ### Reading fields -/

/-- `trim_ascii`. -/
def trimAscii (text : String) : String :=
  String.ofList ((text.toList.dropWhile isCSpace).reverse.dropWhile isCSpace).reverse

/-- `split_csv`, and `split_csv_trimmed`. -/
def splitCsv (input : String) : List String :=
  ((input.toList.splitOn ',').map fun token => trimAscii (String.ofList token)).filter (· ≠ "")

/-- `join_csv`. -/
def joinCsv (values : List String) : String := ",".intercalate values

/-- What is left of a text after trimming was in it. -/
theorem mem_of_mem_trimAscii {text : String} {c : Char} (h : c ∈ (trimAscii text).toList) :
    c ∈ text.toList := by
  unfold trimAscii at h
  rw [String.toList_ofList, mem_reverse] at h
  have hfront := (dropWhile_suffix _).subset h
  rw [mem_reverse] at hfront
  exact (dropWhile_suffix _).subset hfront

/-! ### Selectors -/

/-- The servers that a command is for. -/
structure InstanceSelector where
  all : Bool := false
  serverIds : List String := []
  roles : List String := []
  gameModes : List String := []
  regions : List String := []
  shards : List String := []
  tags : List String := []
  deriving DecidableEq, Repr

/-- What a server is known by. -/
structure InstanceRecord where
  instanceId : String := ""
  role : String := ""
  gameMode : String := ""
  region : String := ""
  shard : String := ""
  tags : List String := []
  deriving DecidableEq, Repr

/-- `normalize_token`. -/
def normalizeToken (value : String) : String := toLowerAscii (trimAscii value)

/-- `normalize_token_set`. -/
def normalizeTokenSet (values : List String) : List String :=
  (values.map normalizeToken).filter (· ≠ "")

/-- `matches_field`. -/
def matchesField (value : String) (filters : List String) : Bool :=
  filters = [] || normalizeToken value ∈ normalizeTokenSet filters

/-- `matches_tags`. -/
def matchesTags (recordTags selectorTags : List String) : Bool :=
  selectorTags = [] || recordTags.any fun tag => normalizeToken tag ∈ normalizeTokenSet selectorTags

/-- `has_at_least_one_selector_field`. -/
def InstanceSelector.hasField (s : InstanceSelector) : Bool :=
  s.all || s.serverIds ≠ [] || s.roles ≠ [] || s.gameModes ≠ [] || s.regions ≠ [] ||
    s.shards ≠ [] || s.tags ≠ []

/-- `matches_selector`. -/
def matchesSelector (r : InstanceRecord) (s : InstanceSelector) : Bool :=
  s.all || s.hasField && matchesField r.instanceId s.serverIds && matchesField r.role s.roles &&
      matchesField r.gameMode s.gameModes && matchesField r.region s.regions &&
      matchesField r.shard s.shards && matchesTags r.tags s.tags

/-- What is read of a selector. -/
structure SelectorParse where
  selector : InstanceSelector := {}
  specified : Bool := false
  allSpecified : Bool := false
  valid : Bool := true
  deriving DecidableEq, Repr

/-- The texts for a Boolean. -/
def parseFlag (text : String) : Option Bool :=
  let normalized := toLowerAscii (trimAscii text)
  if normalized ∈ ["", "1", "true", "yes", "on"] then some true
  else if normalized ∈ ["0", "false", "no", "off"] then some false
  else none

/-- The names in a field, none without the field. -/
def csvField (f : Fields) (key : String) : List String := ((f.lookup key).map splitCsv).getD []

/-- The fields that name servers by one of their properties. -/
def selectorKeys : List String :=
  ["server_ids", "roles", "game_modes", "regions", "shards", "tags"]

/-- A selector as it is read, once the flag is. -/
def selectorOf (f : Fields) (all allSpecified : Bool) : SelectorParse where
  selector :=
    { all := all
      serverIds := csvField f "server_ids"
      roles := csvField f "roles"
      gameModes := csvField f "game_modes"
      regions := csvField f "regions"
      shards := csvField f "shards"
      tags := csvField f "tags" }
  specified := allSpecified || selectorKeys.any fun key => (f.lookup key).isSome
  allSpecified := allSpecified

/-- `parse_admin_selector_fields` of the server and `parse_instance_selector_query` of the
    administrator's tool.  A flag that is unreadable ends the reading. -/
def parseSelector (f : Fields) : SelectorParse :=
  match f.lookup "all" with
  | none => selectorOf f false false
  | some text =>
    match parseFlag text with
    | some all => selectorOf f all true
    | none => { specified := true, allSpecified := true, valid := false }

/-- A command that names servers is for a server only if it names it. -/
def isTarget (r : InstanceRecord) (f : Fields) : Bool :=
  let parse := parseSelector f
  !parse.specified || parse.valid && matchesSelector r parse.selector

end Knights.Admin
