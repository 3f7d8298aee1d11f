import Knights.Chat.State

namespace Knights.Chat

/-!
# Slash commands

How `on_chat_send` reads a line of chat that starts with `/`.  A line that is none of the
commands is an ordinary line.
-/

/-! ### Reading words -/

/-- `std::isspace` of the C locale. -/
def isSpace (c : Char) : Bool :=
  c = ' ' || c = '\t' || c = '\n' || c = '\r' || c.toNat = 11 || c.toNat = 12

/-- The next word of a stream, as `>>` reads it, and what follows it. -/
def nextWord (cs : List Char) : String × List Char :=
  let cs' := cs.dropWhile isSpace
  (String.ofList (cs'.takeWhile fun c => !isSpace c), cs'.dropWhile fun c => !isSpace c)

/-- The text without the blanks around it. -/
def trimBlanks (cs : List Char) : String :=
  String.ofList ((cs.dropWhile (· = ' ')).reverse.dropWhile (· = ' ')).reverse

/-- `std::tolower` on ASCII letters. -/
def toLowerAscii (text : String) : String := String.ofList (text.toList.map Char.toLower)

/-- `std::stoul` in base 10: an optional sign, then digits; anything after them is ignored.
    A minus sign negates modulo `2 ^ 64`. -/
def stoul (raw : String) : Option ℕ :=
  let read (cs : List Char) : Option ℕ :=
    match cs.takeWhile Char.isDigit with
    | [] => none
    | ds =>
      let n := ds.foldl (fun n d => n * 10 + (d.toNat - '0'.toNat)) 0
      if n < 2 ^ 64 then some n else none
  match raw.toList.dropWhile isSpace with
  | '-' :: cs => (read cs).map fun n => (2 ^ 64 - n) % 2 ^ 64
  | '+' :: cs => read cs
  | cs => read cs

/-- A duration from the text of a command: out of range or unreadable, it is the default. -/
def parseDurationSec (raw : String) (fallback minValue maxValue : ℕ) : ℕ :=
  if raw = "" then fallback
  else
    match stoul raw with
    | none => fallback
    | some n => if n < minValue ∨ maxValue < n then fallback else n

/-! ### Commands -/

/-- A line of chat that is a command. -/
inductive Command
  | rooms
  | who (target : String)
  | whisper (target text : String)
  | whisperUsage
  | invite (target room : String)
  | kick (target room : String)
  | removeRoom (room : String)
  | mute (user : String) (sec : ℕ)
  | unmute (user : String)
  | ban (user : String) (sec : ℕ)
  | unban (user : String)
  | globalKick (user : String)
  /-- `op` is `add`, `remove`, `list` or anything the user wrote. -/
  | blacklist (op target : String)
  | usage (text : String)
  deriving DecidableEq, Repr

/-- What follows the first `n` characters of the text. -/
def after (n : ℕ) (text : String) : List Char := text.toList.drop n

/-- `/who`, with the current room unless another is named. -/
def parseWho (currentRoom text : String) : Command :=
  match (after 4 text).dropWhile (· = ' ') with
  | [] => .who currentRoom
  | cs => .who (String.ofList cs)

/-- `/whisper` and `/w`: a user and the rest of the line. -/
def parseWhisper (args : List Char) : Command :=
  let args := args.dropWhile (· = ' ')
  let target := args.takeWhile (· ≠ ' ')
  match args.dropWhile (· ≠ ' ') with
  | [] => .whisperUsage
  | _ :: rest =>
    -- a text of blanks only is kept as it is
    let text := if rest.dropWhile (· = ' ') = [] then rest else rest.dropWhile (· = ' ')
    if target = [] ∨ text = [] then .whisperUsage
    else .whisper (String.ofList target) (String.ofList text)

/-- A command about a user and a room, which is the current one unless another is named. -/
def parseUserRoom (mk : String → String → Command) (usage currentRoom : String)
    (args : List Char) : Command :=
  let (user, rest) := nextWord args
  let (named, _) := nextWord rest
  let room := if named = "" then currentRoom else named
  if user = "" ∨ room = "" ∨ room = "lobby" then .usage usage else mk user room

/-- A command about a user alone. -/
def parseUser (mk : String → Command) (usage : String) (args : List Char) : Command :=
  let (user, _) := nextWord args
  if user = "" then .usage usage else mk user

/-- A command about a user and a duration. -/
def parseUserSec (mk : String → ℕ → Command) (usage : String) (fallback minValue maxValue : ℕ)
    (args : List Char) : Command :=
  let (user, rest) := nextWord args
  let (raw, _) := nextWord rest
  if user = "" then .usage usage else mk user (parseDurationSec raw fallback minValue maxValue)

/-- `/room remove`. -/
def parseRemoveRoom (currentRoom text : String) : Command :=
  let (named, _) := nextWord (after 12 text)
  let room := if named = "" then currentRoom else named
  if room = "" ∨ room = "lobby" then .usage "usage: /room remove [room]" else .removeRoom room

/-- `/blacklist` with its operation. -/
def parseBlacklist (text : String) : Command :=
  let args := trimBlanks (after 10 text)
  if args = "" ∨ args = "list" then .blacklist "list" ""
  else
    let (op, rest) := nextWord args.toList
    .blacklist (toLowerAscii op) (trimBlanks (rest.takeWhile (· ≠ '\n')))

/-- The command a line of chat is, in the order in which `on_chat_send` tries them. -/
def parseCommand (cfg : Config) (currentRoom text : String) : Option Command :=
  let is (pre : String) : Bool := startsWith pre text
  if text = "/rooms" then some .rooms
  else if is "/who" then some (parseWho currentRoom text)
  else if is "/whisper " then some (parseWhisper (after 9 text))
  else if is "/w " then some (parseWhisper (after 3 text))
  else if is "/invite " then
    some (parseUserRoom .invite "usage: /invite <user> [room]" currentRoom (after 8 text))
  else if is "/kick " then
    some (parseUserRoom .kick "usage: /kick <user> [room]" currentRoom (after 6 text))
  else if is "/room remove" then some (parseRemoveRoom currentRoom text)
  else if is "/mute " then
    some (parseUserSec .mute "usage: /mute <user> [seconds]" cfg.spamMuteSec 5 86400 (after 6 text))
  else if is "/unmute " then some (parseUser .unmute "usage: /unmute <user>" (after 8 text))
  else if is "/ban " then
    some (parseUserSec .ban "usage: /ban <user> [seconds]" cfg.spamBanSec 10 604800 (after 5 text))
  else if is "/unban " then some (parseUser .unban "usage: /unban <user>" (after 7 text))
  else if is "/gkick " then some (parseUser .globalKick "usage: /gkick <user>" (after 7 text))
  else if is "/block " then some (.blacklist "add" (trimBlanks (after 7 text)))
  else if is "/unblock " then some (.blacklist "remove" (trimBlanks (after 9 text)))
  else if is "/blacklist" then some (parseBlacklist text)
  else none

end Knights.Chat
