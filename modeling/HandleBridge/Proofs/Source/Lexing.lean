import HandleBridge.Source.Lexer
import HandleBridge.Proofs.Source.Words

/-
  The words of a text are names.

  A word is what `afterWord` takes off the rest of a text: an identifier, perhaps behind the mark of
  a raw one. `Accepts ok` says of a test that it passes on all of these. The trees that are read so
  far are those of the innermost open group and those before the groups around it; every round of
  `readTrees` keeps that their words pass.

  Proved:
  * `exists_name_of_afterWord`: what is left behind a word is the text without a name.
  * `allWords_of_readTrees`: the invariant of the rounds.
  * `allWords_of_treesOf`: all words of a text that is not refused pass.
-/

namespace HandleBridge.Source

open HandleBridge.Text (isIdent isIdentStart isIdentContinue)

/-! ## Words at the front of a text -/

namespace Cursor

theorem rest_forward (n : Nat) (c : Cursor) : (c.forward n).rest = c.rest.drop n := by
  induction n generalizing c with
  | zero => rfl
  | succ n ih =>
    obtain ⟨rest, place⟩ := c
    cases rest with
    | nil => rfl
    | cons ch rest => exact ih _

theorem between_upTo (c : Cursor) (rest : List Char) :
    c.between (c.upTo rest) = c.rest.take (c.rest.length - rest.length) := by
  unfold between upTo
  rw [rest_forward, List.length_drop]
  congr 1
  omega

end Cursor

theorem eq_append_of_dropLead {lead : String} {cs rest : List Char}
    (h : dropLead lead cs = some rest) : cs = lead.toList ++ rest := by
  unfold dropLead at h
  split at h
  · rename_i hl
    obtain ⟨behind, rfl⟩ := List.isPrefixOf_iff_prefix.1 hl
    simpa using h
  · cases h

theorem exists_isIdent_of_afterIdent {cs rest : List Char} (h : afterIdent cs = some rest) :
    ∃ name, cs = name ++ rest ∧ isIdent name = true := by
  unfold afterIdent at h
  split at h
  · rename_i c cs
    split at h
    · rename_i hc
      cases h
      refine ⟨c :: cs.takeWhile isIdentContinue, by simp, ?_⟩
      simp [isIdent, hc]
    · cases h
  · cases h

/-- A test that identifiers pass, raw ones as well. -/
structure Accepts (ok : String → Bool) : Prop where
  plain : ∀ name, isIdent name = true → ok (String.ofList name) = true
  raw : ∀ name, isIdent name = true → ok (String.ofList ('r' :: '#' :: name)) = true

variable {ok : String → Bool}

theorem exists_name_of_afterWord (ha : Accepts ok) {cs rest : List Char}
    (h : afterWord cs = some rest) : ∃ name, cs = name ++ rest ∧ ok (String.ofList name) = true := by
  unfold afterWord at h
  split at h
  · rename_i behind hd
    obtain ⟨after, hi, hn⟩ := Option.bind_eq_some_iff.1 h
    dsimp only at hn
    split at hn
    · cases hn
    · cases hn
      obtain ⟨name, he, hok⟩ := exists_isIdent_of_afterIdent hi
      refine ⟨'r' :: '#' :: name, ?_, ha.raw name hok⟩
      rw [eq_append_of_dropLead hd, he]
      rfl
  · obtain ⟨name, he, hok⟩ := exists_isIdent_of_afterIdent h
    exact ⟨name, he, ha.plain name hok⟩

/-! ## Trees -/

theorem allWords_of_leaf (ha : Accepts ok) {c after : Cursor} {t : Tree}
    (h : leaf? c = some (t, after)) : AllWords ok [t] := by
  have literal {text : String} {s : Span} : AllWords ok [.literal text s] := rfl
  have punct {ch : Char} {joint : Bool} {s : Span} : AllWords ok [.punct ch joint s] := rfl
  unfold leaf? at h
  dsimp only at h
  split at h
  · cases h
    exact literal
  split at h
  · split at h
    · split at h
      · cases h
        exact punct
      · cases h
    · cases h
      exact punct
  split at h
  · cases h
  split at h
  · cases h
    exact literal
  · obtain ⟨rest, hw, he⟩ := Option.map_eq_some_iff.1 h
    cases he
    obtain ⟨name, hc, hok⟩ := exists_name_of_afterWord ha hw
    rw [allWords_word, Cursor.between_upTo, hc]
    refine ⟨?_, allWords_nil⟩
    simpa using hok

theorem allWords_documentation (ha : Accepts ok) (d : Documentation) (s : Span) :
    AllWords ok (d.trees s) := by
  have hdoc : ok "doc" = true := ha.plain "doc".toList (by decide +kernel)
  unfold Documentation.trees
  split <;> simp [AllWords, Tree.anyWordOf, Tree.anyWord, hdoc]

/-- The trees of the innermost open group and those before the groups around it. -/
structure ReadSoFar (ok : String → Bool) (opened : List OpenGroup) (done : List Tree) : Prop where
  inner : AllWords ok done
  outer : ∀ g ∈ opened, AllWords ok g.before

theorem allWords_of_readTrees (ha : Accepts ok) {trees : List Tree} (n : Nat)
    (opened : List OpenGroup) (done : List Tree) (c : Cursor) (hr : ReadSoFar ok opened done)
    (h : readTrees n opened done c = some trees) : AllWords ok trees := by
  induction n generalizing opened done c with
  | zero => cases h
  | succ n ih =>
    rw [readTrees] at h
    dsimp only at h
    split at h
    -- a documentation comment
    · split at h
      · refine ih _ _ _ ⟨?_, hr.outer⟩ h
        exact allWords_append.2 ⟨(allWords_documentation ha _ _).reverse, hr.inner⟩
      · cases h
    split at h
    -- the end of the text
    · split at h
      · cases h
        exact hr.inner.reverse
      · cases h
    split at h
    -- a group opens: what was read so far now stands before it
    · refine ih _ _ _ ⟨allWords_nil, ?_⟩ h
      rintro g (_ | ⟨_, hg⟩)
      · exact hr.inner
      · exact hr.outer g hg
    -- a group closes
    · split at h
      · cases h
      · rename_i g outer
        split at h
        · refine ih _ _ _ ⟨?_, fun k hk => hr.outer k (.tail _ hk)⟩ h
          exact allWords_group.2 ⟨hr.inner.reverse, hr.outer g (.head _)⟩
        · cases h
    -- any other token
    · split at h
      · rename_i t after hl
        refine ih _ _ _ ⟨?_, hr.outer⟩ h
        exact allWords_append.2 ⟨allWords_of_leaf ha hl, hr.inner⟩
      · cases h

theorem allWords_of_treesOf (ha : Accepts ok) {text : String} {trees : List Tree}
    (h : treesOf? text = some trees) : AllWords ok trees :=
  allWords_of_readTrees ha _ _ _ _ ⟨allWords_nil, by simp⟩ h

end HandleBridge.Source
