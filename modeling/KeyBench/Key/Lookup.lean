import KeyBench.Key
import KeyBench.Text.Blank
import KeyBench.Text.Quoted

/-!
# Finding keys

A key is found by its slot, its usage, its name in the notation, or the name that the host
reports. Names are compared without regard to the case of the letters `A` to `Z`. Each look-up
relies on every key having a name, a host name and a usage of its own, which `Key.auditTables`
verifies.
-/

namespace KeyBench

/-- Why a key was not found. -/
inductive KeyError where
  | unknownName (text : String)
  | unknownSlot (slot : UInt8)
  | unknownUsage (usage : Usage)
  | ambiguousTables (problems : List String)
  deriving DecidableEq, Repr

/-- The error as it is reported. -/
def KeyError.message : KeyError → String
  | .unknownName text => "unknown key name: " ++ Text.quote text
  | .unknownSlot slot => "unknown slot code: " ++ Text.hexCode slot
  | .unknownUsage usage => "no key with usage " ++ usage.label
  | .ambiguousTables problems => "incomplete key tables: " ++ "; ".intercalate problems

namespace Key

/-! ## Look-ups -/

/-- The key in a slot. -/
def ofSlot (slot : UInt8) : Except KeyError Key :=
  match all.find? fun k => k.slot == slot with
  | some k => .ok k
  | none => .error (.unknownSlot slot)

/-- The key that reports a usage. -/
def ofUsage (usage : Usage) : Except KeyError Key :=
  match all.find? fun k => k.usage == usage with
  | some k => .ok k
  | none => .error (.unknownUsage usage)

/-- The key with a name of the notation. -/
def ofName (text : String) : Except KeyError Key :=
  match all.find? fun k => Text.lower k.name == Text.lower text with
  | some k => .ok k
  | none => .error (.unknownName text)

/-- The key that the host reports under a name. -/
def ofHostName (text : String) : Except KeyError Key :=
  match all.find? fun k => Text.lower k.hostName == Text.lower text with
  | some k => .ok k
  | none => .error (.unknownName text)

/-! ## The tables -/

/-- Says which of the earlier keys, if any, has something in common with a key. -/
def clash (same : Key → Bool) (earlier : List Key) (k : Key) (what : String) : List String :=
  match earlier.find? same with
  | some other => [other.label ++ " and " ++ k.label ++ " share " ++ what]
  | none => []

/-- What speaks against looking up the keys of a list, given the keys before them. -/
def problemsAfter (earlier : List Key) : List Key → List String
  | [] => []
  | k :: ks =>
    clash (fun j => Text.lower j.name == Text.lower k.name) earlier k
      ("name " ++ Text.quote k.name) ++
    (match k.usage.hostName? with
      | some host =>
        clash (fun j => Text.lower j.hostName == Text.lower host) earlier k
          ("host name " ++ Text.quote host)
      | none => [k.label ++ " has no host name"]) ++
    clash (fun j => j.usage == k.usage) earlier k ("usage " ++ k.usage.label) ++
    problemsAfter (k :: earlier) ks

/-- Succeeds if every key has a name, a host name and a usage of its own. -/
def auditTables : Except KeyError Unit :=
  match problemsAfter [] all with
  | [] => .ok ()
  | problems => .error (.ambiguousTables problems)

end Key

end KeyBench
