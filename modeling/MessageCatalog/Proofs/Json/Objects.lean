import MessageCatalog.Proofs.Json.Values

/-! # Objects as tokens

The tokens of an object tell its fields and their order. The text that is printed for an object
consists of these tokens, and so do all its texts with other blanks.
-/

namespace MessageCatalog.Json

def Printable.tokens : Printable → List (List Char)
  | .string s => [printString s]
  | .natural n => [Nat.toDigits 10 n]
  | .strings ss => ['['] :: (stringTokens true ss ++ [[']']])

def fieldTokens (field : String × Printable) : List (List Char) :=
  printString field.1 :: [':'] :: field.2.tokens

/-- The tokens of fields up to the end of their object. -/
def fieldsTokens (isFirst : Bool) (fields : List (String × Printable)) : List (List Char) :=
  listed isFirst (fields.map fieldTokens) ++ [[Bracket.object.close]]

def objectTokens (fields : List (String × Printable)) : List (List Char) :=
  [Char.ofNat 0x7b] :: fieldsTokens true fields

theorem fieldsTokens_cons (isFirst : Bool) (field : String × Printable)
    (fields : List (String × Printable)) (tokens : List (List Char)) :
    fieldsTokens isFirst (field :: fields) ++ tokens =
      (if isFirst then [] else [[',']]) ++ printString field.1 :: [':'] ::
        (field.2.tokens ++ (fieldsTokens false fields ++ tokens)) := by
  simp [fieldsTokens, listed, fieldTokens]

/-! ## Reading -/

theorem endsNumber_fieldsTokens (fields : List (String × Printable)) (tokens : List (List Char)) :
    EndsNumber (Spaced (fieldsTokens false fields ++ tokens)) := by
  cases fields with
  | nil => exact endsNumber_spaced (by decide)
  | cons field fields =>
      rw [fieldsTokens_cons]
      exact endsNumber_spaced (by decide)

section Reading

variable (tokens : List (List Char))

theorem reads_nextKey_end (isFirst : Bool) :
    Reads (nextKey isFirst) (Spaced ([Bracket.object.close] :: tokens)) none
      (Spaced ([Bracket.object.close] :: tokens)) := by
  apply (reads_peekToken [] (by decide) tokens).bind
  exact (Reads.pure none _).mono (fun _ left => left) fun _ left => left.spaced

theorem reads_nextKey (isFirst : Bool) (name : String) :
    Reads (nextKey isFirst)
      (Spaced ((if isFirst then [] else [[',']]) ++ printString name :: tokens)) (some name)
      (Spaced tokens) := by
  cases isFirst with
  | true =>
      apply (reads_peekToken _ (by decide) tokens).bind
      exact (reads_string name).map some
  | false =>
      apply (reads_peekToken [] (by decide) _).bind
      apply (reads_eat ',' _).bind
      apply (reads_peekToken _ (by decide) tokens).bind
      exact (reads_string name).map some

theorem reads_colon : Reads colon (Spaced ([':'] :: tokens)) () (Spaced tokens) := by
  apply (reads_peekToken [] (by decide) tokens).bind
  exact reads_eat ':' _

theorem reads_endObject :
    Reads endObject (Spaced ([Bracket.object.close] :: tokens)) () (Spaced tokens) := by
  apply (reads_peekToken [] (by decide) tokens).bind
  exact reads_eat _ _

theorem reads_endDocument : Reads endDocument (Spaced []) () (Spaced []) := by
  apply reads_peekToken_end.bind
  exact .pure () _

end Reading

theorem Printable.ne_nil_of_mem_tokens {value : Printable} : ∀ t ∈ value.tokens, t ≠ [] := by
  intro t member
  cases value with
  | string s => simp_all [tokens, printString]
  | natural n =>
      rw [tokens, List.mem_singleton] at member
      rw [member]
      exact Nat.toDigits_ne_nil
  | strings ss =>
      simp only [tokens, List.mem_cons, List.mem_append] at member
      rcases member with rfl | member | rfl | none
      · simp
      · exact ne_nil_of_mem_listed (by simp [printString]) true t member
      · simp
      · cases none

theorem length_le_of_fieldsTokens {fields : List (String × Printable)} {isFirst : Bool}
    {tokens : List (List Char)} {text : List Char}
    (spaced : Spaced (fieldsTokens isFirst fields ++ tokens) text) :
    fields.length ≤ text.length := by
  rw [fieldsTokens, List.append_assoc] at spaced
  have some : ∀ item ∈ fields.map fieldTokens, item ≠ [] := by
    intro item member
    obtain ⟨field, _, rfl⟩ := List.mem_map.mp member
    exact List.cons_ne_nil _ _
  have solid : ∀ item ∈ fields.map fieldTokens, ∀ t ∈ item, t ≠ [] := by
    intro item member
    obtain ⟨field, _, rfl⟩ := List.mem_map.mp member
    refine List.forall_mem_cons.mpr ⟨List.cons_ne_nil _ _, ?_⟩
    exact List.forall_mem_cons.mpr ⟨List.cons_ne_nil _ _, Printable.ne_nil_of_mem_tokens⟩
  have items := length_le_of_listed some solid spaced
  rwa [List.length_map] at items

/-! ## Printing -/

/-- Whether a text consists of tokens, in front of whatever follows. -/
def Spells (tokens : List (List Char)) (text : List Char) : Prop :=
  ∀ more rest, Spaced more rest → Spaced (tokens ++ more) (text ++ rest)

section Spells

variable {tokens more : List (List Char)} {text rest : List Char}

theorem spells_nil : Spells [] [] := fun _ _ spaced => spaced

theorem spells_token (token : List Char) : Spells [token] token := fun _ _ spaced =>
  .token token spaced

theorem Spells.append (h : Spells tokens text) (h' : Spells more rest) :
    Spells (tokens ++ more) (text ++ rest) := by
  intro others behind spaced
  rw [List.append_assoc, List.append_assoc]
  exact h _ _ (h' _ _ spaced)

theorem Spells.blanks {blanks : List Char} (h : Spells tokens text)
    (blank : ∀ c ∈ blanks, isBlank c = true) : Spells tokens (blanks ++ text) := by
  intro others behind spaced
  rw [List.append_assoc]
  exact (h _ _ spaced).blanks blank

theorem Spells.spaced (h : Spells tokens text) : Spaced tokens text := by
  have := h [] [] .done
  rwa [List.append_nil, List.append_nil] at this

theorem spells_printLines {α : Type} {itemTokens : α → List (List Char)} {print : α → List Char}
    {indent : List Char} (blank : ∀ c ∈ indent, isBlank c = true) {items : List α}
    (each : ∀ item ∈ items, Spells (itemTokens item) (print item)) :
    Spells (listed true (items.map itemTokens)) (printLines indent (items.map print)) := by
  have lineBlank : ∀ c ∈ '\n' :: indent, isBlank c = true :=
    List.forall_mem_cons.mpr ⟨by decide, blank⟩
  induction items with
  | nil => exact spells_nil
  | cons item items ih =>
      obtain ⟨first, others⟩ := List.forall_mem_cons.mp each
      have line : Spells (itemTokens item) ('\n' :: indent ++ print item) := first.blanks lineBlank
      cases items with
      | nil =>
          rw [List.map_singleton, List.map_singleton, printLines]
          simpa [listed] using line
      | cons next items =>
          have rest := (spells_token [',']).append (ih others)
          exact line.append rest

theorem isBlank_of_mem_fieldIndent : ∀ c ∈ fieldIndent, isBlank c = true := by
  simp [fieldIndent, isBlank]

theorem isBlank_of_mem_elementIndent : ∀ c ∈ elementIndent, isBlank c = true := by
  simp [elementIndent, fieldIndent, isBlank]

theorem spells_print (value : Printable) : Spells value.tokens value.print := by
  cases value with
  | string s => exact spells_token _
  | natural n => exact spells_token _
  | strings ss =>
      have closing : Spells [[']']] ('\n' :: fieldIndent ++ [']']) :=
        (spells_token [']']).blanks
          (List.forall_mem_cons.mpr ⟨by decide, isBlank_of_mem_fieldIndent⟩)
      cases ss with
      | nil => exact (spells_token ['[']).append (spells_token [']'])
      | cons s ss =>
          have each : ∀ item ∈ s :: ss, Spells [printString item] (printString item) :=
            fun _ _ => spells_token _
          have lines : Spells (stringTokens true (s :: ss))
              (printLines elementIndent ((s :: ss).map printString)) :=
            spells_printLines isBlank_of_mem_elementIndent each
          exact (spells_token ['[']).append (lines.append closing)

theorem spells_printField (field : String × Printable) :
    Spells (fieldTokens field) (printField field) := by
  have value : Spells field.2.tokens (' ' :: field.2.print) :=
    (spells_print field.2).blanks (List.forall_mem_singleton.mpr (by decide))
  exact (spells_token _).append ((spells_token [':']).append value)

/-- The text that is printed for an object consists of its tokens. -/
theorem spaced_printObject (fields : List (String × Printable)) :
    Spaced (objectTokens fields) (printObject fields).toList := by
  have each : ∀ field ∈ fields, Spells (fieldTokens field) (printField field) :=
    fun field _ => spells_printField field
  have lines := spells_printLines isBlank_of_mem_fieldIndent each
  have closing : Spells [[Bracket.object.close]] (['\n'] ++ [Bracket.object.close]) :=
    (spells_token _).blanks (List.forall_mem_singleton.mpr (by decide))
  have whole := (spells_token [Char.ofNat 0x7b]).append (lines.append closing)
  rw [printObject, String.toList_ofList]
  exact whole.spaced

end Spells

end MessageCatalog.Json
