import TokenMint.Json.Record
import TokenMint.Proofs.Json.Number

/-! # Records and variants are read back as they were written

A reader that takes a value off the front of what has been written leaves what comes after it, so
the readers of fields make up one of a record, in whatever order the fields have been written.  For
the other direction a record is filled field by field, from an object or from a list, and what every
field keeps holds of the whole. -/

namespace TokenMint.Json

open Text.Decimal (Range)

/-! ## Readers in a row -/

namespace Reader

variable {α β : Type} {r : Reader α} {cs rest : List Char} {a : α}

theorem bind_of_ok {f : α → Reader β} (h : r cs = .ok (a, rest)) : (r >>= f) cs = f a rest := by
  change (r cs >>= fun p ↦ f p.1 p.2) = _
  rw [h]
  rfl

theorem map_of_ok {f : α → β} (h : r cs = .ok (a, rest)) : (f <$> r) cs = .ok (f a, rest) := by
  change (r cs >>= fun p ↦ .ok (f p.1, p.2)) = _
  rw [h]
  rfl

theorem bind_eq_ok {f : α → Reader β} {b : β} (h : (r >>= f) cs = .ok (b, rest)) :
    ∃ a cs', r cs = .ok (a, cs') ∧ f a cs' = .ok (b, rest) := by
  change (r cs >>= fun p ↦ f p.1 p.2) = _ at h
  cases hr : r cs with
  | error e =>
    rw [hr] at h
    cases h
  | ok p =>
    rw [hr] at h
    exact ⟨p.1, p.2, rfl, h⟩

end Reader

/-! ## What is written -/

/-- The reader takes a written value off the front of a text, and leaves what comes after it. -/
def Reads {α : Type} (r : Reader α) (t : Tree) (a : α) : Prop :=
  ∀ rest, Ends rest → r (t.write ++ rest) = .ok (a, rest)

namespace Reads

variable {α β : Type}

theorem text (s : String) : Reads .text (.text s) s := fun rest _ ↦ text_writeText s rest

theorem int {range : Range} {n : Int} (h64 : n ∈ Range.signed64) (hn : n ∈ range) :
    Reads (.int range) (.int n) n := fun _ hrest ↦ int_writeInt h64 hn hrest

theorem bool (b : Bool) : Reads .bool (.bool b) b := by
  intro rest _
  cases b with
  | true => rfl
  | false => rfl

theorem map {r : Reader α} {t : Tree} {a : α} (h : Reads r t a) (f : α → β) :
    Reads (f <$> r) t (f a) := fun rest hrest ↦ Reader.map_of_ok (h rest hrest)

/-- A value that has been written is the whole of its text. -/
theorem whole {r : Reader α} {t : Tree} {a : α} (h : Reads r t a) :
    Reader.whole r t.render = .ok a := by
  have hread := h [] .nil
  rw [List.append_nil] at hread
  rw [Reader.whole, Tree.render, String.toList_ofList, hread]
  rfl

end Reads

namespace Record

variable {σ τ : Type} {fields : List (Field σ)}

/-- The members of an object that has been written are fields, none of which comes twice; they turn
what has been read before into what has been read in the end. -/
inductive Fills (fields : List (Field σ)) : List (String × Tree) → σ → σ → Prop
  | nil (s : σ) : Fills fields [] s s
  | cons {name : String} {t : Tree} {ms : List (String × Tree)} {f : Field σ} {put : σ → σ}
    {s s' : σ} (hf : fields.find? (·.name = name) = some f) (hknown : f.known s = false)
    (hread : Reads f.read t put) (h : Fills fields ms (put s) s') :
    Fills fields ((name, t) :: ms) s s'

theorem ends_writeMembers (ms : List (String × Tree)) (rest : List Char) :
    Ends (Tree.writeMembers ms ++ '\x7d' :: rest) := by
  cases ms with
  | nil => exact .brace rest
  | cons m ms =>
    rw [Tree.writeMembers]
    exact .comma _

theorem member_write {f : Field σ} {name : String} {t : Tree} {put : σ → σ} {s : σ}
    {rest : List Char} (hf : fields.find? (·.name = name) = some f) (hknown : f.known s = false)
    (hread : Reads f.read t put) (hrest : Ends rest) :
    member fields name s (':' :: (t.write ++ rest)) = .ok (put s, rest) := by
  simp only [member, hf, hknown, Bool.false_eq_true, if_false]
  change (f.read (t.write ++ rest) >>= fun p ↦ .ok (p.1 s, p.2)) = _
  rw [hread rest hrest]
  rfl

/-- Every member takes a character at least. -/
theorem length_le_length_writeMembers (ms : List (String × Tree)) :
    ms.length ≤ (Tree.writeMembers ms).length := by
  induction ms with
  | nil => exact Nat.zero_le _
  | cons m ms ih =>
    simp only [Tree.writeMembers, List.length_cons, List.length_append]
    omega

theorem moreMembers_write {ms : List (String × Tree)} {s s' : σ} (h : Fills fields ms s s')
    {n : Nat} (hn : ms.length < n) (rest : List Char) :
    moreMembers fields n s (Tree.writeMembers ms ++ '\x7d' :: rest) = .ok (s', rest) := by
  induction h generalizing n with
  | nil s =>
    obtain ⟨n, rfl⟩ := Nat.exists_eq_add_one_of_ne_zero (Nat.ne_zero_of_lt hn)
    rfl
  | @cons name t ms f put s s' hf hknown hread h ih =>
    obtain ⟨n, rfl⟩ := Nat.exists_eq_add_one_of_ne_zero (Nat.ne_zero_of_lt hn)
    have hwritten : Tree.writeMembers ((name, t) :: ms) ++ '\x7d' :: rest =
        ',' :: (writeText name.toList ++
          ':' :: (t.write ++ (Tree.writeMembers ms ++ '\x7d' :: rest))) := by
      simp [Tree.writeMembers]
    have hmember := member_write hf hknown hread (ends_writeMembers ms rest)
    rw [hwritten, moreMembers, dropGaps_cons rfl]
    simp only [afterGaps_memberName_writeText, hmember]
    exact ih (Nat.lt_of_succ_lt_succ hn)

theorem members_write {ms : List (String × Tree)} {s s' : σ} (h : Fills fields ms s s')
    (rest : List Char) :
    ∃ cs, (Tree.object ms).write ++ rest = '\x7b' :: cs ∧ members fields s cs = .ok (s', rest) := by
  cases h with
  | nil s => exact ⟨'\x7d' :: rest, rfl, rfl⟩
  | @cons name t ms f put s s' hf hknown hread h =>
    refine ⟨writeText name.toList ++
      ':' :: (t.write ++ (Tree.writeMembers ms ++ '\x7d' :: rest)), by simp [Tree.write], ?_⟩
    have hmember := member_write hf hknown hread (ends_writeMembers ms rest)
    have hfuel : ms.length < (Tree.writeMembers ms ++ '\x7d' :: rest).length := by
      have := length_le_length_writeMembers ms
      simp only [List.length_append, List.length_cons]
      omega
    have hname := memberName_writeText name
      (':' :: (t.write ++ (Tree.writeMembers ms ++ '\x7d' :: rest)))
    rw [writeText_append] at hname ⊢
    generalize name.toList.flatMap escape ++ _ = cs at hname ⊢
    have hdrop : dropGaps ('"' :: cs) = '"' :: cs := dropGaps_cons rfl cs
    simp only [members, hdrop]
    split
    · rename_i heq
      exact absurd (List.cons.inj heq).1 (by decide)
    · simp only [hname, hmember, moreMembers_write h hfuel]

end Record

/-- A record is read from its fields. -/
theorem Reads.record {σ τ : Type} {r : Record σ τ} {ms : List (String × Tree)} {s : σ} {a : τ}
    (h : Record.Fills r.fields ms r.start s) (hfinish : r.finish s = some a) :
    Reads r.read (.object ms) a := by
  intro rest _
  obtain ⟨cs, hwritten, hmembers⟩ := Record.members_write h rest
  have hcomplete : r.complete s rest = .ok (a, rest) := by
    rw [Record.complete, hfinish]
    rfl
  rw [hwritten, Record.read, afterGaps, dropGaps_cons rfl]
  exact (Reader.bind_of_ok hmembers).trans hcomplete

/-! ## Variants that are written -/

section Variant

variable {τ : Type} {plain : String → Option τ} {named : String → Option (Reader τ)} {name : String}

/-- A variant without content is read from its name. -/
theorem Reads.variant_plain {a : τ} (h : plain name = some a) :
    Reads (Reader.variant plain named) (.text name) a := by
  intro rest _
  rw [Tree.write, writeText_append, Reader.variant, afterGaps, dropGaps_cons rfl]
  simp only [textBody_flatMap_escape, String.ofList_toList, h]

/-- A variant with content is read from the only member of an object. -/
theorem Reads.variant_content {r : Reader τ} {t : Tree} {a : τ} (hplain : plain name = none)
    (hnamed : named name = some r) (h : Reads r t a) :
    Reads (Reader.variant plain named) (.object [(name, t)]) a := by
  intro rest _
  have hwritten : (Tree.object [(name, t)]).write ++ rest =
      '\x7b' :: (writeText name.toList ++ ':' :: (t.write ++ '\x7d' :: rest)) := by
    simp [Tree.write, Tree.writeMembers]
  rw [hwritten, Reader.variant, afterGaps, dropGaps_cons rfl]
  refine (Reader.bind_of_ok (afterGaps_memberName_writeText name _)).trans ?_
  simp only [hplain, hnamed]
  refine (Reader.bind_of_ok rfl).trans ((Reader.bind_of_ok (Record.colon_cons _)).trans ?_)
  refine (Reader.bind_of_ok (h _ (.brace rest))).trans ?_
  rfl

end Variant

/-! ## What can be read -/

/-- Whatever the reader takes off the front of a text satisfies `P`. -/
def Gives {α : Type} (r : Reader α) (P : α → Prop) : Prop :=
  ∀ cs a rest, r cs = .ok (a, rest) → P a

namespace Gives

variable {α β : Type} {r : Reader α} {P : α → Prop}

theorem trivial (r : Reader α) : Gives r fun _ ↦ True := fun _ _ _ _ ↦ ⟨⟩

theorem pure {a : α} (h : P a) : Gives (pure a) P := by
  intro cs b rest hb
  cases hb
  exact h

theorem throw (e : Fault) (P : α → Prop) : Gives (throw e : Reader α) P := nofun

theorem bind {f : α → Reader β} {Q : β → Prop} (h : Gives r P) (hf : ∀ a, P a → Gives (f a) Q) :
    Gives (r >>= f) Q := by
  intro cs b rest hb
  obtain ⟨a, cs', ha, hb⟩ := Reader.bind_eq_ok hb
  exact hf a (h cs a cs' ha) cs' b rest hb

theorem map {f : α → β} {Q : β → Prop} (h : Gives r P) (hf : ∀ a, P a → Q (f a)) :
    Gives (f <$> r) Q := bind h fun a ha ↦ pure (hf a ha)

theorem whole (h : Gives r P) {s : String} {a : α} (ha : Reader.whole r s = .ok a) : P a := by
  unfold Reader.whole at ha
  split at ha
  · cases ha
  · rename_i b rest hb
    split at ha
    · cases ha
      exact h _ _ _ hb
    · cases ha

/-- Of another kind nothing is read. -/
theorem otherwise (P : α → Prop) : Gives otherwise P := by
  have hfault {β : Type} {x : Except Fault β} {p : α × List Char} :
      (do discard x; .error .mismatch : Except Fault (α × List Char)) ≠ .ok p := by
    cases x <;> nofun
  intro cs a rest h
  unfold Json.otherwise at h
  split at h
  · exact absurd h hfault
  · exact absurd h hfault
  · exact absurd h hfault
  · exact absurd h hfault
  · exact absurd h hfault
  · cases h
  · cases h
  · cases h
  · split at h
    · exact absurd h hfault
    · cases h

theorem int (range : Range) : Gives (Reader.int range) (· ∈ range) := by
  have hrange {x : Except Fault (Number × List Char)} {n : Int} {rest : List Char}
      (h : Reader.inRange range x = .ok (n, rest)) : n ∈ range := by
    unfold Reader.inRange at h
    split at h
    · cases h
    · cases h
    · split at h
      · cases h
        assumption
      · cases h
  intro cs n rest h
  unfold Reader.int afterGaps at h
  dsimp only at h
  split at h
  · cases h
  · exact hrange h
  · split at h
    · exact hrange h
    · exact otherwise _ _ _ _ h

end Gives

namespace Record

variable {σ τ : Type} {fields : List (Field σ)} {I : σ → Prop}

/-- Every field keeps what holds of what has been read so far. -/
def Keeps (fields : List (Field σ)) (I : σ → Prop) : Prop :=
  ∀ f ∈ fields, Gives f.read fun put ↦ ∀ s, I s → I (put s)

theorem Keeps.nil (I : σ → Prop) : Keeps [] I := nofun

theorem Keeps.cons {f : Field σ} (hf : Gives f.read fun put ↦ ∀ s, I s → I (put s))
    (h : Keeps fields I) : Keeps (f :: fields) I := List.forall_mem_cons.mpr ⟨hf, h⟩

theorem Keeps.member (h : Keeps fields I) (name : String) {s : σ} (hs : I s) :
    Gives (member fields name s) I := by
  unfold Record.member
  split
  · rename_i f hf
    have hread := h f (List.mem_of_find?_eq_some hf)
    split
    · exact .throw .mismatch I
    · exact (Gives.trivial colon).bind fun _ _ ↦ hread.bind fun put hput ↦ .pure (hput s hs)
  · exact (Gives.trivial colon).bind fun _ _ ↦ (Gives.trivial _).bind fun _ _ ↦ .pure hs

theorem Keeps.moreMembers (h : Keeps fields I) (n : Nat) {s : σ} (hs : I s) :
    Gives (moreMembers fields n s) I := by
  induction n generalizing s with
  | zero => exact nofun
  | succ n ih =>
    intro cs s' rest hs'
    unfold Record.moreMembers at hs'
    split at hs'
    · cases hs'
    · cases hs'
      exact hs
    · split at hs'
      · cases hs'
      · split at hs'
        · cases hs'
        · rename_i hmember
          exact ih (h.member _ hs _ _ _ hmember) _ _ _ hs'
    · cases hs'

theorem Keeps.members (h : Keeps fields I) {s : σ} (hs : I s) : Gives (members fields s) I := by
  intro cs s' rest hs'
  unfold Record.members at hs'
  split at hs'
  · cases hs'
    exact hs
  · split at hs'
    · cases hs'
    · split at hs'
      · cases hs'
      · rename_i hmember
        exact h.moreMembers _ (h.member _ hs _ _ _ hmember) _ _ _ hs'

theorem Keeps.elements (h : Keeps fields I) (first : Bool) {s : σ} (hs : I s) :
    Gives (elements first fields s) I := by
  induction fields generalizing first s with
  | nil => exact .pure hs
  | cons f fs ih =>
    refine (Gives.trivial _).bind fun more _ ↦ ?_
    cases more with
    | false => exact .throw .mismatch I
    | true =>
      refine (h f List.mem_cons_self).bind fun put hput ↦ ?_
      exact ih (fun g hg ↦ h g (List.mem_cons_of_mem f hg)) false (hput s hs)

/-- What every field keeps holds of a record in either of its forms. -/
theorem gives_read {r : Record σ τ} {P : τ → Prop} (hstart : I r.start) (h : Keeps r.fields I)
    (hfinish : ∀ s a, I s → r.finish s = some a → P a) : Gives r.read P := by
  have hcomplete (s : σ) (hs : I s) : Gives (r.complete s) P := by
    unfold complete
    split
    · exact .pure (hfinish s _ hs ‹_›)
    · exact .throw .mismatch P
  intro cs a rest ha
  unfold read afterGaps at ha
  dsimp only at ha
  split at ha
  · cases ha
  · exact ((h.elements true hstart).bind hcomplete).bind
      (fun t ht ↦ (Gives.trivial listEnd).bind fun _ _ ↦ .pure ht) _ _ _ ha
  · exact (h.members hstart).bind hcomplete _ _ _ ha
  · exact Gives.otherwise P _ _ _ ha

end Record

/-- What holds of all variants without content, and of the content of the others, holds of every
variant. -/
theorem Gives.variant {τ : Type} {plain : String → Option τ} {named : String → Option (Reader τ)}
    {P : τ → Prop} (hplain : ∀ name a, plain name = some a → P a)
    (hnamed : ∀ name r, named name = some r → Gives r P) :
    Gives (Reader.variant plain named) P := by
  intro cs a rest ha
  unfold Reader.variant afterGaps at ha
  dsimp only at ha
  split at ha
  · cases ha
  · split at ha
    · cases ha
    · split at ha
      · cases ha
        exact hplain _ _ ‹_›
      · cases ha
  · have hafter (content : Reader τ) (h : Gives content P) : Gives (do
        Record.colon
        let t ← content
        Reader.variantEnd
        return t) P :=
      (Gives.trivial _).bind fun _ _ ↦ h.bind fun t ht ↦ (Gives.trivial _).bind fun _ _ ↦ .pure ht
    refine (Gives.trivial (afterGaps Record.memberName)).bind (fun name _ ↦ ?_) _ _ _ ha
    split
    · have ht := hplain name _ ‹_›
      exact hafter _ ((Gives.trivial Reader.null).bind fun _ _ ↦ .pure ht)
    · exact hafter _ (hnamed name _ ‹_›)
    · exact (Gives.throw .mismatch fun content ↦ Gives content P).bind hafter
  · cases ha

end TokenMint.Json
