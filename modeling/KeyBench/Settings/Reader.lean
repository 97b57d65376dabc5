import KeyBench.Json.Skip
import KeyBench.Json.Wanted
import KeyBench.Settings

/-!
# Reading settings

Settings are a JSON object whose members are fields in any order, or a JSON list of their values
in the order of the fields. Fields that are missing keep their defaults. Members of other names
are skipped. A field that comes twice is refused as soon as its second key has been read.

The text is read once from left to right, and the first thing that is wrong is reported, be it its
form or the sort of a value.
-/

namespace KeyBench.Settings

open Json (Error skipSpace)

/-! ## Fields -/

/-- Reads the value of a field into settings. -/
def Field.read (f : Field) (settings : Settings) (s : List Char) :
    Except Error (Settings × List Char) :=
  match f with
  | .device => Json.onValue (fun t => { settings with device := t }) (Json.readText "path string" s)
  | .settleMs =>
    Json.onValue (fun n => { settings with settleMs := UInt64.ofNat n }) (Json.readNatural "u64" s)
  | .holdMs =>
    Json.onValue (fun n => { settings with holdMs := UInt64.ofNat n }) (Json.readNatural "u64" s)
  | .queueCapacity =>
    Json.onValue (fun n => { settings with queueCapacity := UInt64.ofNat n })
      (Json.readNatural "usize" s)
  | .caseCount =>
    Json.onValue (fun n => { settings with caseCount := UInt64.ofNat n })
      (Json.readNatural "usize" s)
  | .seed =>
    Json.onValue (fun n => { settings with seed? := n.map UInt64.ofNat })
      (Json.readOptional "u64" s)

theorem Field.length_of_read {f : Field} {settings settings' : Settings} {s rest : List Char}
    (h : f.read settings s = .ok (settings', rest)) : rest.length < s.length := by
  cases f <;> obtain ⟨_, hr, _⟩ := Json.eq_ok_of_onValue h
  · exact Json.length_of_readText hr
  · exact Json.length_of_readNatural hr
  · exact Json.length_of_readNatural hr
  · exact Json.length_of_readNatural hr
  · exact Json.length_of_readNatural hr
  · exact Json.length_of_readOptional hr

/-! ## Objects -/

/-- Reads the opening quote of a key. -/
def openKey (s : List Char) : Except Error (Option (List Char) × List Char) :=
  match s with
  | [] => .error .endInValue
  | c :: rest =>
    if c = '"' then
      match Json.readString rest with
      | .error e => .error e
      | .ok (key, after) => .ok (some key, after)
    else .error .keyNotString

/-- Reads the key of the next member, or the brace that ends the object. `started` tells whether
there was a member before. -/
def readKey (started : Bool) (s : List Char) : Except Error (Option (List Char) × List Char) :=
  match skipSpace s with
  | [] => .error .endInObject
  | c :: rest =>
    if c = '\x7d' then .ok (none, rest)
    else if started then
      if c = ',' then
        match skipSpace rest with
        | '\x7d' :: _ => .error .trailingComma
        | t => openKey t
      else .error .expectedCommaInObject
    else openKey (c :: rest)

theorem length_of_openKey {s rest : List Char} {key : Option (List Char)}
    (h : openKey s = .ok (key, rest)) : rest.length < s.length := by
  unfold openKey at h
  split at h
  · cases h
  · split at h
    · split at h
      · cases h
      · next hr =>
        cases h
        have := Json.length_of_readString hr
        rw [List.length_cons]
        omega
    · cases h

theorem length_of_readKey {started : Bool} {s rest : List Char} {key : Option (List Char)}
    (h : readKey started s = .ok (key, rest)) : rest.length < s.length := by
  have hs := Json.length_skipSpace_le s
  unfold readKey at h
  split at h
  · cases h
  · next c r heq =>
    rw [heq, List.length_cons] at hs
    have hr := Json.length_skipSpace_le r
    split at h
    · cases h; omega
    split at h
    · split at h
      · split at h
        · cases h
        · have := length_of_openKey h; omega
      · cases h
    · have := length_of_openKey h
      rw [List.length_cons] at this
      omega

/-- Reads the members of an object into settings. `seen` holds the fields that have been set. -/
def readMembers (seen : List Field) (started : Bool) (settings : Settings) (s : List Char) :
    Except Error (Settings × List Char) :=
  match hk : readKey started s with
  | .error e => .error e
  | .ok (none, rest) => .ok (settings, rest)
  | .ok (some key, afterKey) =>
    match Field.ofName? key with
    | some f =>
      if f ∈ seen then .error (.duplicateField f.name)
      else
        match hc : Json.readColon afterKey with
        | .error e => .error e
        | .ok s₁ =>
          match hv : f.read settings s₁ with
          | .error e => .error e
          | .ok (settings', rest) =>
            have := length_of_readKey hk
            have := Json.length_of_readColon hc
            have := Field.length_of_read hv
            readMembers (f :: seen) true settings' rest
    | none =>
      match hc : Json.readColon afterKey with
      | .error e => .error e
      | .ok s₁ =>
        match hv : Json.skipValue [] s₁ with
        | .error e => .error e
        | .ok rest =>
          have := length_of_readKey hk
          have := Json.length_of_readColon hc
          have := Json.length_of_skipValue hv
          readMembers seen true settings rest
termination_by s.length
decreasing_by all_goals omega

/-! ## Lists -/

/-- Reads the end of a list after as many values as there are fields. -/
def readListEnd (s : List Char) : Except Error (List Char) :=
  match skipSpace s with
  | [] => .error .endInList
  | c :: rest =>
    if c = ']' then .ok rest
    else if c = ',' then
      match skipSpace rest with
      | ']' :: _ => .error .trailingComma
      | _ => .error .trailingCharacters
    else .error .trailingCharacters

/-- Reads the values of a list into settings; `fields` are those that follow. -/
def readElements (started : Bool) (settings : Settings) :
    List Field → List Char → Except Error (Settings × List Char)
  | [], s =>
    match readListEnd s with
    | .error e => .error e
    | .ok rest => .ok (settings, rest)
  | f :: fields, s =>
    let element (t : List Char) : Except Error (Settings × List Char) :=
      match f.read settings t with
      | .error e => .error e
      | .ok (settings', rest) => readElements true settings' fields rest
    match skipSpace s with
    | [] => .error .endInList
    | c :: rest =>
      if c = ']' then .ok (settings, rest)
      else if started then
        if c = ',' then
          match skipSpace rest with
          | [] => .error .endInValue
          | ']' :: _ => .error .trailingComma
          | t => element t
        else .error .expectedCommaInList
      else element (c :: rest)

/-! ## Texts -/

/-- Reads an object or a list into the default settings. -/
def readValue (s : List Char) : Except Error (Settings × List Char) :=
  match skipSpace s with
  | '\x7b' :: rest => readMembers [] false default rest
  | '[' :: rest => readElements false default Field.all rest
  | t => .error (Json.mismatch "struct Config" t)

/-- Reads settings from a text that holds nothing else. -/
def ofJson (text : String) : Except Error Settings :=
  match readValue text.toList with
  | .error e => .error e
  | .ok (settings, rest) =>
    match skipSpace rest with
    | [] => .ok settings
    | _ => .error .trailingCharacters

end KeyBench.Settings
