/-
# Key servers

A key server has an address, of which only the form can be told without asking for it. One
key server is always at hand: it keeps its keys itself, and for ever, since it does not let
them expire. It can be told to refuse all commands, and notes the commands it was given.
-/

import Federation.Artifact.Storage
import Federation.Text.Blank

namespace Federation

/-- Has a text the form of an address of a key server? On the network it names a host, on the
same machine a path. -/
def KeyServer.isAddress (address : String) : Bool :=
  let rest? (scheme : String) :=
    Text.dropPrefix? scheme.toList (Text.asciiLower (Text.trim address)).toList
  (["redis://", "valkey://"].filterMap rest?).any (fun rest =>
      rest.head?.any fun c => !(['/', '?', '#', ':'].contains c))
    || !(["unix:", "redis+unix:", "valkey+unix:"].filterMap rest?).isEmpty

/-- The failure to reach a key server at an address, which may not have the right form. -/
def KeyServer.unreachable (address : String) : Failure :=
  if KeyServer.isAddress address then .storage "Redis connection failed: unreachable"
  else .configuration "Redis client creation failed: not an address"

/-- The contents of a key server that keeps its keys itself. -/
structure KeptKeys where
  texts : Keyed String String
  /-- Are all commands refused? -/
  isRefusing : Bool
  /-- The commands it was given. -/
  received : List KeyCommand

namespace KeptKeys

/-- No keys and no commands. -/
def empty : KeptKeys := ⟨.empty, false, []⟩

/-- Carries out a command. -/
def obey (command : KeyCommand) (kept : KeptKeys) : KeyReply × KeptKeys :=
  match command with
  | .setIfAbsent key text _ =>
    if kept.texts.contains key then (.done false, kept)
    else (.done true, { kept with texts := kept.texts.insert key text })
  | .get key => (.text (kept.texts.get? key), kept)
  | .delete key => (.done (kept.texts.contains key), { kept with texts := kept.texts.erase key })
  | .ping => (.text (some "PONG"), kept)

/-- Notes a command and answers it. -/
def answer (command : KeyCommand) (kept : KeptKeys) : KeyReply × KeptKeys :=
  let kept := { kept with received := kept.received ++ [command] }
  if kept.isRefusing then (.refused "refused", kept) else obey command kept

/-- The server, whose keys begin in some way. -/
def server (lead : String) : KeyServer KeptKeys := ⟨lead, answer⟩

end KeptKeys

end Federation
