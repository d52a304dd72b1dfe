import Throttle.Proofs.Json.RoundTrip

/-!
# Doubles that are read back

A number ends before a delimiter, whatever comes after. So a double that is read back from its own text is read back in the
text of every value that it is in. Not every double is: a number of many digits may be read as a neighbour.
-/

namespace Throttle.Json

/-- What is read does not depend on what comes after a delimiter. -/
def Separable {β : Type} (read : List Char → Option (β × List Char)) : Prop :=
  ∀ cs v rest, read cs = some (v, rest) →
    rest <:+ cs ∧ ∀ after, Delimited after → read (cs ++ after) = some (v, rest ++ after)

variable {after : List Char}

theorem takeWhile_isDigit_append (h : Delimited after) (cs : List Char) :
    (cs ++ after).takeWhile Char.isDigit = cs.takeWhile Char.isDigit := by
  induction cs with
  | nil => cases h <;> rfl
  | cons c cs ih => simp only [List.cons_append, List.takeWhile_cons, ih]

theorem dropWhile_isDigit_append (h : Delimited after) (cs : List Char) :
    (cs ++ after).dropWhile Char.isDigit = cs.dropWhile Char.isDigit ++ after := by
  induction cs with
  | nil => cases h <;> rfl
  | cons c cs ih =>
      simp only [List.cons_append, List.dropWhile_cons, ih]
      split <;> rfl

/-- The digits of an exponent after its sign. -/
def exponentDigits (negative : Bool) (digits : List Char) : Option (Int × List Char) :=
  match digits.takeWhile Char.isDigit with
  | [] => none
  | ds => some (if negative then -(digitsValue ds : Int) else digitsValue ds, digits.dropWhile Char.isDigit)

theorem readExponent_cons (c : Char) (cs : List Char) :
    readExponent (c :: cs) =
      if c = '-' then exponentDigits true cs
      else if c = '+' then exponentDigits false cs
      else exponentDigits false (c :: cs) := by
  split
  · next h => subst h; rfl
  · next hminus =>
    split
    · next h => subst h; rfl
    · next hplus =>
      unfold readExponent
      split
      next heq =>
        split at heq
        · next h => exact absurd (List.cons.inj h).1 hminus
        · next h => exact absurd (List.cons.inj h).1 hplus
        · cases heq; rfl

theorem separable_exponentDigits (negative : Bool) : Separable (exponentDigits negative) := by
  intro cs v rest h
  unfold exponentDigits at h
  split at h
  · cases h
  · next hne =>
    cases h
    refine ⟨List.dropWhile_suffix _, fun after hafter => ?_⟩
    unfold exponentDigits
    rw [takeWhile_isDigit_append hafter, dropWhile_isDigit_append hafter]
    split
    · contradiction
    · rfl

theorem separable_readExponent : Separable readExponent := by
  intro cs v rest h
  rcases cs with _ | ⟨c, cs⟩
  · cases h
  · have hcons (cs : List Char) := readExponent_cons c cs
    rw [hcons] at h
    simp only [List.cons_append, hcons]
    split at h
    · obtain ⟨hsuffix, happend⟩ := separable_exponentDigits true cs v rest h
      exact ⟨hsuffix.trans (List.suffix_cons ..), by simpa [*] using happend⟩
    · split at h
      · obtain ⟨hsuffix, happend⟩ := separable_exponentDigits false cs v rest h
        exact ⟨hsuffix.trans (List.suffix_cons ..), by simpa [*] using happend⟩
      · obtain ⟨hsuffix, happend⟩ := separable_exponentDigits false (c :: cs) v rest h
        exact ⟨hsuffix, by simpa [*] using happend⟩

theorem readTail_exponent (l : Literal) (isWhole : Bool) {c : Char} (h : c = 'e' ∨ c = 'E') (cs : List Char) :
    readTail l isWhole (c :: cs) =
      (readExponent cs).bind fun x => some (ofLiteral { l with exponent := x.1 } false, x.2) := by
  rcases h with rfl | rfl <;> rfl

theorem readTail_of_ne (l : Literal) (isWhole : Bool) {c : Char} (h : ¬ (c = 'e' ∨ c = 'E')) (cs : List Char) :
    readTail l isWhole (c :: cs) = some (ofLiteral l isWhole, c :: cs) := by
  unfold readTail
  split
  · next heq => exact absurd (.inl (List.cons.inj heq).1) h
  · next heq => exact absurd (.inr (List.cons.inj heq).1) h
  · rfl

theorem separable_readTail (l : Literal) (isWhole : Bool) : Separable (readTail l isWhole) := by
  intro cs v rest h
  rcases cs with _ | ⟨c, cs⟩
  · cases h
    exact ⟨List.suffix_refl _, fun after hafter => by cases hafter <;> rfl⟩
  · by_cases he : c = 'e' ∨ c = 'E'
    · rw [readTail_exponent l isWhole he] at h
      obtain ⟨⟨k, rest⟩, hk, h⟩ := Option.bind_eq_some_iff.mp h
      cases h
      obtain ⟨hsuffix, happend⟩ := separable_readExponent cs k rest hk
      refine ⟨hsuffix.trans (List.suffix_cons ..), fun after hafter => ?_⟩
      rw [List.cons_append, readTail_exponent l isWhole he, happend after hafter]
      rfl
    · rw [readTail_of_ne l isWhole he] at h
      cases h
      exact ⟨List.suffix_refl _, fun after _ => by rw [List.cons_append, readTail_of_ne l isWhole he]⟩

theorem separable_readNumber (negative : Bool) : Separable (readNumber negative) := by
  intro cs v rest h
  unfold readNumber at h
  dsimp only at h
  split at h
  · cases h
  · next hwhole =>
    split at h
    · next tail htail =>
      split at h
      · cases h
      · next hfraction =>
        obtain ⟨hsuffix, happend⟩ := separable_readTail _ _ _ v rest h
        have htail' : '.' :: tail <:+ cs := htail ▸ List.dropWhile_suffix _
        refine ⟨hsuffix.trans ((List.dropWhile_suffix _).trans ((List.suffix_cons ..).trans htail')), fun after hafter => ?_⟩
        unfold readNumber
        dsimp only
        rw [takeWhile_isDigit_append hafter, dropWhile_isDigit_append hafter, if_neg hwhole, htail, List.cons_append]
        simp only [takeWhile_isDigit_append hafter, dropWhile_isDigit_append hafter, hfraction]
        exact happend after hafter
    · next tail hpoint =>
      obtain ⟨hsuffix, happend⟩ := separable_readTail _ _ _ v rest h
      refine ⟨hsuffix.trans (List.dropWhile_suffix _), fun after hafter => ?_⟩
      unfold readNumber
      dsimp only
      rw [takeWhile_isDigit_append hafter, dropWhile_isDigit_append hafter, if_neg hwhole]
      split
      · next tail' htail' =>
        cases hdrop : List.dropWhile Char.isDigit cs with
        | nil => rw [hdrop] at htail'; cases hafter <;> cases htail'
        | cons c ds =>
            rw [hdrop] at htail'
            cases htail'
            exact absurd hdrop (hpoint ds)
      · exact happend after hafter

/-! ## Doubles -/

theorem begins_of_isNumeral {c : Char} (h : isNumeral c = true) (cs : List Char) : Begins (c :: cs) := by
  simp only [isNumeral, Bool.or_eq_true, decide_eq_true_eq] at h
  rcases h with (((h | rfl) | rfl) | rfl) | rfl
  · exact begins_of_isDigit h cs
  all_goals exact ⟨_, _, rfl, rfl, by decide⟩

theorem readValue_of_isNumeral {c : Char} (h : isNumeral c = true) (fuel depth : Nat) (cs : List Char) :
    readValue (fuel + 1) depth (c :: cs) = if c = '-' then readNumber true cs else readNumber false (c :: cs) := by
  by_cases hminus : c = '-'
  · subst hminus
    rfl
  · rw [readValue, (begins_of_isNumeral h cs).skipBlanks, if_neg hminus]
    split
    iterate 6
      · next heq =>
        obtain ⟨rfl, -⟩ := List.cons.inj heq
        cases h
    · next heq => exact absurd (List.cons.inj heq).1 hminus
    · rfl

theorem separable_readValue_of_isNumeral {c : Char} {cs rest : List Char} {v : Json} {fuel depth : Nat}
    (hc : isNumeral c = true) (h : readValue (fuel + 1) depth (c :: cs) = some (v, rest)) :
    rest <:+ c :: cs ∧ ∀ fuel depth after, Delimited after →
      readValue (fuel + 1) depth (c :: cs ++ after) = some (v, rest ++ after) := by
  rw [readValue_of_isNumeral hc] at h
  simp only [List.cons_append, readValue_of_isNumeral hc]
  split at h
  · next hminus =>
    obtain ⟨hsuffix, happend⟩ := separable_readNumber true cs v rest h
    simp only [if_pos hminus]
    exact ⟨hsuffix.trans (List.suffix_cons ..), fun _ _ => happend⟩
  · next hminus =>
    obtain ⟨hsuffix, happend⟩ := separable_readNumber false (c :: cs) v rest h
    simp only [if_neg hminus]
    exact ⟨hsuffix, fun _ _ => happend⟩

theorem eq_nil_of_skipBlanks {cs : List Char} (hcs : cs.all isNumeral = true) (h : skipBlanks cs = []) : cs = [] := by
  cases cs with
  | nil => rfl
  | cons c cs =>
      have hbegins : Begins (c :: cs) := begins_of_isNumeral (List.all_eq_true.mp hcs c List.mem_cons_self) cs
      rw [hbegins.skipBlanks] at h
      cases h

/-- A double that is read back alone is read back everywhere. -/
theorem readsBack_real {x : Float} (h : read? (real x).write = some (.real x)) (depth : Nat) : ReadsBack depth (.real x) := by
  have hnumerals : (real x).chars.all isNumeral = true := Layout.all_isNumeral_writeFloat _ x
  cases hchars : (real x).chars with
  | nil =>
      rw [write, hchars] at h
      cases h
  | cons c cs =>
      rw [hchars] at hnumerals
      have hc : isNumeral c = true := List.all_eq_true.mp hnumerals c List.mem_cons_self
      rw [read?, write, hchars, String.toList_ofList] at h
      cases hread : readValue (2 * (c :: cs).length + 2) maxDepth (c :: cs) with
      | none => rw [hread] at h; cases h
      | some p =>
          obtain ⟨v, rest⟩ := p
          simp only [hread] at h
          split at h
          · next hempty =>
            cases h
            obtain ⟨hsuffix, happend⟩ := separable_readValue_of_isNumeral hc hread
            have hrest : rest = [] :=
              eq_nil_of_skipBlanks (List.all_eq_true.mpr fun d hd => List.all_eq_true.mp hnumerals d (hsuffix.subset hd))
                (List.isEmpty_iff.mp hempty)
            refine readsBack_of_succ (hchars ▸ begins_of_isNumeral hc cs) fun fuel after _ hafter => ?_
            rw [hchars, happend fuel depth after hafter, hrest, List.nil_append]
          · cases h

end Throttle.Json
