import DocWire.Document.Spelling
import DocWire.Error.Argument

/-! Read preferences: which members of a replica set an operation may read from. -/

namespace DocWire

/-- Tags by which members are told apart, each name standing once. -/
abbrev TagSet := List (String × String)

namespace TagSet

/-- The names and texts in braces, quoted. -/
def text (tags : TagSet) : String :=
  "\x7b" ++ String.intercalate ", " (tags.map fun (name, value) =>
    Text.quoted name ++ ": " ++ Text.quoted value) ++ "\x7d"

/-- The tag set of a list of names and texts, the last text of a name counting. -/
def ofPairs (pairs : List (String × String)) : TagSet :=
  pairs.foldl (fun tags (name, value) =>
    -- A repeated name keeps its place and takes the new text.
    if tags.any (·.1 == name) then tags.map fun tag => if tag.1 = name then (name, value) else tag
    else tags ++ [(name, value)]) []

/-- The tag set as a document; a single tag may spell another value. -/
def toValue (tags : TagSet) : Value :=
  Document.written (tags.map fun (name, value) => (name, .string value))

/-- The tag set that a document of texts holds, or a value that one text spells. -/
def ofValue? : RawValue → Option TagSet
  | .document fields => do
    -- One tag that is no text spoils the set.
    let pairs ← fields.mapM fun (name, value) => do return (name, ← value.text?)
    return ofPairs pairs
  | .atom value => value.spelling?.map fun tag => [tag]
  | _ => none

/-- Whether two tag sets hold the same tags, in any order. -/
def same (a b : TagSet) : Bool := a.length == b.length && a.all b.contains

/-- Whether the first tag set asks for nothing that the second does not have. -/
def satisfiedBy (wanted tags : TagSet) : Bool := wanted.all tags.contains

end TagSet

/-- Which kind of member is wanted. -/
inductive ReadMode where
  | secondary
  | primaryPreferred
  | secondaryPreferred
  | nearest
deriving DecidableEq, Repr, Inhabited

/-- The options of a read preference. -/
structure ReadOptions where
  tagSets : Option (List TagSet) := none
deriving DecidableEq, Repr, Inhabited

/-- The members that an operation may read from; only the primary takes no options. -/
inductive ReadPreference where
  | primary
  | other (mode : ReadMode) (options : Option ReadOptions)
deriving DecidableEq, Repr, Inhabited

/-- The options that a value holds. -/
def ReadOptions.ofValue? (value : RawValue) : Option ReadOptions := do
  let record ← Record.ofValue? ["tagSets"] value
  return ⟨← record.optional? 0 ["tagSets"] (RawValue.items? TagSet.ofValue?)⟩

namespace ReadMode

/-- The name of the mode in commands. -/
def name : ReadMode → String
  | secondary => "secondary"
  | primaryPreferred => "primaryPreferred"
  | secondaryPreferred => "secondaryPreferred"
  | nearest => "nearest"

/-- The name of the mode with a capital letter. -/
def title : ReadMode → String
  | secondary => "Secondary"
  | primaryPreferred => "PrimaryPreferred"
  | secondaryPreferred => "SecondaryPreferred"
  | nearest => "Nearest"

end ReadMode

namespace ReadPreference

/-- The name of the mode in commands. -/
def modeName : ReadPreference → String
  | primary => "primary"
  | other mode _ => mode.name

/-- The tag sets, when any are given. -/
def tagSets : ReadPreference → Option (List TagSet)
  | primary => none
  | other _ options => options.bind (·.tagSets)

/-- Whether a member other than the primary may answer. -/
def allowsSecondary : ReadPreference → Bool
  | primary => false
  | other _ _ => true

/-- Attaches tag sets to any preference but that for the primary. -/
def withTags (preference : ReadPreference) (sets : List TagSet) :
    Except ArgumentFault ReadPreference :=
  match preference with
  -- There is only one primary, so tags could not tell it from others.
  | primary => .error .primaryWithTags
  | other mode _ => .ok (other mode (some ⟨some sets⟩))

/-- The mode and the tag sets in braces. -/
def text (preference : ReadPreference) : String :=
  let title := match preference with
    | primary => "Primary"
    | other mode _ => mode.title
  -- An empty list of tag sets is still shown.
  let tags := match preference.tagSets with
    | none => ""
    | some sets => ", Tag Sets: [" ++ String.intercalate ", " (sets.map TagSet.text) ++ "]"
  "\x7b Mode: " ++ title ++ tags ++ " \x7d"

/-- The preference as commands carry it. -/
def toDocument (preference : ReadPreference) : Document :=
  ("mode", .string preference.modeName) ::
    (preference.tagSets.map fun sets => ("tagSets", Value.array (sets.map TagSet.toValue))).toList

/-- Whether two lists of tag sets hold the same sets in the same order. -/
def sameSets : List TagSet → List TagSet → Bool
  | [], [] => true
  | a :: rest, b :: others => TagSet.same a b && sameSets rest others
  | _, _ => false

/-- Whether two options agree. -/
def sameOptions : Option ReadOptions → Option ReadOptions → Bool
  | none, none => true
  -- Options without tag sets differ from no options at all.
  | some ⟨none⟩, some ⟨none⟩ => true
  | some ⟨some a⟩, some ⟨some b⟩ => sameSets a b
  | _, _ => false

/-- Whether two preferences agree. -/
def same : ReadPreference → ReadPreference → Bool
  | primary, primary => true
  | other a x, other b y => a == b && sameOptions x y
  | _, _ => false

end ReadPreference
end DocWire
