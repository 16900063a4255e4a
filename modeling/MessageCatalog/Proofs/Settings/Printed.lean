import MessageCatalog.Proofs.Json.Objects
import MessageCatalog.Settings.Text

/-! # Reading the text of settings

Settings are read back from their text as they were. Fields may come in any order, and settings
whose fields are left out are read as the default ones.
-/

namespace MessageCatalog.Settings

open Json (EndsNumber Printable Reads Spaced fieldsTokens objectTokens printObject)

variable {s : Settings} {key : Key} {value : Printable} {names : List String}
  {kept : List (String × Printable)} {rest : List (List Char)}

/-- Settings with those of some names as they are, and the others as the default ones. -/
def keeping (s : Settings) (names : List String) : Settings where
  functionName := if Key.functionName.name ∈ names then s.functionName else default.functionName
  pattern := if Key.pattern.name ∈ names then s.pattern else default.pattern
  captureIndex := if Key.captureIndex.name ∈ names then s.captureIndex else default.captureIndex
  includes := if Key.includes.name ∈ names then s.includes else default.includes
  ignores := if Key.ignores.name ∈ names then s.ignores else default.ignores
  ignoreDirs := if Key.ignoreDirs.name ∈ names then s.ignoreDirs else default.ignoreDirs

theorem keeping_congr {names' : List String} (same : ∀ name, name ∈ names ↔ name ∈ names') :
    s.keeping names = s.keeping names' := by
  simp only [keeping, same]

/-! ## Keys and fields -/

/-- The value of a key as it is printed, if it is. -/
def value? (s : Settings) : Key → Option Printable
  | .functionName => some (.string s.functionName)
  | .pattern => s.pattern.map .string
  | .captureIndex => some (.natural s.captureIndex)
  | .includes => some (.strings s.includes)
  | .ignores => some (.strings s.ignores)
  | .ignoreDirs => some (.strings s.ignoreDirs)

theorem fields_eq (s : Settings) :
    s.fields = Key.all.filterMap fun key => (s.value? key).map (Prod.mk key.name) := by
  cases none : s.pattern <;> simp [fields, Key.all, value?, none]

theorem exists_value?_of_mem_fields {field : String × Printable} (member : field ∈ s.fields) :
    ∃ key, field.1 = key.name ∧ s.value? key = some field.2 := by
  rw [fields_eq] at member
  obtain ⟨key, -, found⟩ := List.mem_filterMap.mp member
  obtain ⟨value, has, rfl⟩ := Option.map_eq_some_iff.mp found
  exact ⟨key, rfl, has⟩

theorem Key.name_injective : Function.Injective Key.name := by
  intro key key' same
  cases key <;> cases key' <;> first | rfl | simp [name] at same

theorem Key.ofName?_name (key : Key) : ofName? key.name = some key := by
  cases key <;> decide

theorem nodup_names (s : Settings) : (s.fields.map Prod.fst).Nodup := by
  cases none : s.pattern <;> simp [fields, Key.name, none]

theorem keeping_fields (s : Settings) : s.keeping (s.fields.map Prod.fst) = s := by
  obtain ⟨functionName, pattern, captureIndex, includes, ignores, ignoreDirs⟩ := s
  cases pattern with
  | none => simp [keeping, fields, Key.name, default]
  | some pattern => simp [keeping, fields]

/-! ## Drafts -/

/-- The value of a key, if its name is among some. -/
def given {α : Type} (names : List String) (key : Key) (a : α) : Option α :=
  if key.name ∈ names then some a else none

section Given

variable {α : Type} (a b : α)

@[simp] theorem given_nil : given [] key a = none := if_neg List.not_mem_nil

@[simp] theorem given_cons_self : given (key.name :: names) key a = some a :=
  if_pos List.mem_cons_self

@[simp] theorem isSome_given : (given names key a).isSome = true ↔ key.name ∈ names := by
  simp [given]

@[simp] theorem getD_given :
    (given names key a).getD b = if key.name ∈ names then a else b := by
  rw [given]
  split <;> rfl

theorem given_cons_of_ne {key' : Key} (other : key' ≠ key) :
    given (key.name :: names) key' a = given names key' a := by
  have distinct : key'.name ≠ key.name := fun same => other (Key.name_injective same)
  simp [given, distinct]

end Given

/-- What has been read when the fields of some names have been. -/
def draft (s : Settings) (names : List String) : Draft where
  functionName := given names .functionName s.functionName
  pattern := given names .pattern s.pattern
  captureIndex := given names .captureIndex s.captureIndex
  includes := given names .includes s.includes
  ignores := given names .ignores s.ignores
  ignoreDirs := given names .ignoreDirs s.ignoreDirs

/-- A draft with the value of a key taken from settings. -/
def Draft.taking (d : Draft) (s : Settings) : Key → Draft
  | .functionName => { d with functionName := some s.functionName }
  | .pattern => { d with pattern := some s.pattern }
  | .captureIndex => { d with captureIndex := some s.captureIndex }
  | .includes => { d with includes := some s.includes }
  | .ignores => { d with ignores := some s.ignores }
  | .ignoreDirs => { d with ignoreDirs := some s.ignoreDirs }

theorem draft_nil (s : Settings) : s.draft [] = {} := by
  simp [draft]

theorem draft_cons (s : Settings) (key : Key) (names : List String) :
    s.draft (key.name :: names) = (s.draft names).taking s key := by
  cases key <;> simp [draft, Draft.taking, given_cons_of_ne]

theorem has_draft (s : Settings) (names : List String) (key : Key) :
    (s.draft names).has key = true ↔ key.name ∈ names := by
  cases key <;> exact isSome_given _

theorem settings_draft (s : Settings) (names : List String) :
    (s.draft names).settings = s.keeping names := by
  simp only [draft, Draft.settings, keeping, getD_given]

/-! ## Values -/

theorem reads_readValue (has : s.value? key = some value) (fits : s.captureIndex ≤ Json.maxNatural)
    (ends : EndsNumber (Spaced rest)) (d : Draft) :
    Reads (d.readValue key) (Spaced (value.tokens ++ rest)) (d.taking s key) (Spaced rest) := by
  have strings (ss : List String) :
      Reads Json.readStrings (Spaced ((Printable.strings ss).tokens ++ rest)) ss (Spaced rest) := by
    simpa [Printable.tokens] using Json.reads_readStrings ss rest
  cases key with
  | functionName =>
      cases has
      exact (Json.reads_readString s.functionName rest).map _
  | pattern =>
      obtain ⟨text, given, rfl⟩ := Option.map_eq_some_iff.mp has
      rw [Draft.taking, given]
      exact (Json.reads_readOptional text rest).map _
  | captureIndex =>
      cases has
      exact (Json.reads_readCount ends fits).map _
  | includes =>
      cases has
      exact (strings s.includes).map _
  | ignores =>
      cases has
      exact (strings s.ignores).map _
  | ignoreDirs =>
      cases has
      exact (strings s.ignoreDirs).map _

/-! ## Objects -/

/-- Fields are read from the next one on, if none of them has been read before. -/
theorem reads_readFields (fits : s.captureIndex ≤ Json.maxNatural)
    (printed : ∀ field ∈ kept, field ∈ s.fields)
    (distinct : (kept.map Prod.fst ++ names).Nodup) {fuel : Nat} (enough : kept.length < fuel)
    (isFirst : Bool) :
    Reads (readFields fuel isFirst (s.draft names)) (Spaced (fieldsTokens isFirst kept ++ rest))
      (s.draft ((kept.map Prod.fst).reverse ++ names))
      (Spaced ([Json.Bracket.object.close] :: rest)) := by
  induction kept generalizing names fuel isFirst with
  | nil =>
      obtain ⟨fuel, rfl⟩ := Nat.exists_eq_succ_of_ne_zero (Nat.ne_zero_of_lt enough)
      apply (Json.reads_nextKey_end rest isFirst).bind
      exact .pure _ _
  | cons field kept ih =>
      obtain ⟨fuel, rfl⟩ := Nat.exists_eq_succ_of_ne_zero (Nat.ne_zero_of_lt enough)
      obtain ⟨first, others⟩ := List.forall_mem_cons.mp printed
      obtain ⟨key, named, has⟩ := exists_value?_of_mem_fields first
      rw [List.map_cons, named] at distinct ⊢
      have missing : ¬(s.draft names).has key = true := by
        rw [has_draft]
        intro member
        exact (List.nodup_cons.mp distinct).1 (List.mem_append_right _ member)
      have ends := Json.endsNumber_fieldsTokens kept rest
      have later := @ih (key.name :: names) others (List.nodup_middle.mpr distinct) fuel
        (by simpa using enough) false
      rw [Json.fieldsTokens_cons, named]
      apply (Json.reads_nextKey _ isFirst key.name).bind
      simp only [Key.ofName?_name, missing, Bool.false_eq_true, ↓reduceIte]
      apply (Json.reads_colon _).bind
      apply (reads_readValue has fits ends _).bind
      rw [← draft_cons, List.reverse_cons, List.append_assoc, List.singleton_append]
      exact later

theorem reads_read (fits : s.captureIndex ≤ Json.maxNatural)
    (printed : ∀ field ∈ kept, field ∈ s.fields) (distinct : (kept.map Prod.fst).Nodup) :
    Reads read (Spaced (objectTokens kept)) (s.keeping (kept.map Prod.fst)) (Spaced []) := by
  have whole : objectTokens kept = [Char.ofNat 0x7b] :: (fieldsTokens true kept ++ []) := by
    rw [objectTokens, List.append_nil]
  rw [whole]
  apply (Json.reads_peekToken [] (by decide) _).bind
  apply (Json.reads_eat _ _).bind
  apply Reads.get
  rintro ⟨text, mark⟩ spaced
  have enough := Nat.lt_succ_of_le (Json.length_le_of_fieldsTokens spaced)
  have fresh : (kept.map Prod.fst ++ []).Nodup := by rwa [List.append_nil]
  have fields := @reads_readFields s [] kept [] fits printed fresh _ enough true
  rw [draft_nil] at fields
  apply (fields.here spaced).bind
  apply (Json.reads_endObject []).bind
  rw [settings_draft, List.append_nil, keeping_congr fun _ => List.mem_reverse]
  exact .pure _ _

theorem reads_readDocument (fits : s.captureIndex ≤ Json.maxNatural)
    (printed : ∀ field ∈ kept, field ∈ s.fields) (distinct : (kept.map Prod.fst).Nodup) :
    Reads readDocument (Spaced (objectTokens kept)) (s.keeping (kept.map Prod.fst))
      (Spaced []) := by
  apply (reads_read fits printed distinct).bind
  exact Json.reads_endDocument.map fun _ => _

theorem parse_of_spaced (fits : s.captureIndex < UInt64.size) (among : kept.Subperm s.fields)
    {text : String} (spaced : Spaced (objectTokens kept) text.toList) :
    parse text = .ok (s.keeping (kept.map Prod.fst)) := by
  have distinct : (kept.map Prod.fst).Nodup := by
    obtain ⟨fields, permuted, ordered⟩ := among
    exact (permuted.map Prod.fst).nodup_iff.mp ((ordered.map Prod.fst).nodup (nodup_names s))
  have document := reads_readDocument (Nat.le_pred_of_lt fits) (fun _ member => among.subset member)
    distinct
  obtain ⟨rest, mark, read, -⟩ := document text.toList ⟨1, 0⟩ spaced
  rw [parse, Json.Input.ofString, StateT.run, read]
  rfl

/-- Settings are read back from their text, whatever characters are in their strings and whatever
64-bit group they have. From an object with any of their fields, in any order and with any blanks
between its tokens, just those are read, and the default settings for the others. -/
theorem parse_print {s : Settings} (fits : s.captureIndex < UInt64.size) :
    parse s.print = .ok s ∧
    ∀ kept : List (String × Printable), kept.Subperm s.fields →
      parse (printObject kept) = .ok (s.keeping (kept.map Prod.fst)) ∧
      ∀ text : String, Spaced (objectTokens kept) text.toList →
        parse text = .ok (s.keeping (kept.map Prod.fst)) := by
  refine ⟨?_, fun kept among => ⟨?_, fun text spaced => ?_⟩⟩
  · have whole := parse_of_spaced fits (.refl _) (Json.spaced_printObject s.fields)
    rwa [keeping_fields] at whole
  · exact parse_of_spaced fits among (Json.spaced_printObject kept)
  · exact parse_of_spaced fits among spaced

/-- Settings with characters that are printed as escapes, with others beyond ASCII, and with the
largest group. -/
def escaped : Settings where
  functionName := "\"\\"
  pattern := some "\u00e9\t\x01(.*)"
  captureIndex := 18446744073709551615
  includes := ["\u2028", ""]
  ignores := []
  ignoreDirs := ["\x1f\x7f", "\n"]

def escapedFields : List (String × Printable) :=
  [("ignoreDirs", .strings ["\x1f\x7f", "\n"]), ("pattern", .string "\u00e9\t\x01(.*)")]

theorem parse_print_escaped :
    escaped.captureIndex < UInt64.size ∧ escapedFields.Subperm escaped.fields ∧
      parse escaped.print = .ok escaped ∧
      parse (String.ofList (objectTokens escapedFields).flatten) =
        .ok { default with pattern := escaped.pattern, ignoreDirs := escaped.ignoreDirs } := by
  have fits : escaped.captureIndex < UInt64.size := by decide
  have among : escapedFields.Subperm escaped.fields := by decide +kernel
  obtain ⟨all, kept⟩ := parse_print fits
  have spaced : Spaced (objectTokens escapedFields)
      (String.ofList (objectTokens escapedFields).flatten).toList := by
    rw [String.toList_ofList]
    exact Json.spaced_flatten _
  have read := (kept escapedFields among).2 _ spaced
  exact ⟨fits, among, all, read⟩

end MessageCatalog.Settings
