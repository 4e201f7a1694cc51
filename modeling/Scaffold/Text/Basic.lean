/-!
A text is a list of characters. This module cuts a text at a pattern, at a character, at the end of
a line and at a byte position. Every cut returns the part before and the part after, so nothing of
the text is lost, and a position is never a bare number except in `byteSize` and `cutAtByte`.
-/

namespace Scaffold

/-- A text as the list of its characters. -/
abbrev Text := List Char

namespace Text

/-- The text as a string, for messages. -/
def str (t : Text) : String :=
  String.ofList t

/-- The number of bytes that the text takes in UTF-8. -/
def byteSize : Text → Nat
  | [] => 0
  | c :: rest => c.utf8Size + byteSize rest

/-- Whether the first text comes no later than the second in the order of their code points, which is
also the order of their bytes in UTF-8. -/
def notAfter : (s t : Text) → Bool
  | [], _ => true
  | _ :: _, [] => false
  | c :: s, d :: t => c.toNat < d.toNat || (c == d && notAfter s t)

/-- The text before the first occurrence of `pat`, and the text from that occurrence on. -/
def cutAtFirst : (t pat : Text) → Option (Text × Text)
  | [], pat => if pat = [] then some ([], []) else none
  | c :: rest, pat =>
    if pat.isPrefixOf (c :: rest) then some ([], c :: rest)
    else (cutAtFirst rest pat).map fun (before, after) => (c :: before, after)

/-- Whether `pat` occurs somewhere in the text. -/
def includes (t pat : Text) : Bool :=
  (t.cutAtFirst pat).isSome

/-- The text before the last occurrence of the character `c`, and the text from it on. -/
def cutAtLast (c : Char) : Text → Option (Text × Text)
  | [] => none
  | x :: rest =>
    match cutAtLast c rest with
    | some (before, after) => some (x :: before, after)
    | none => if x = c then some ([], x :: rest) else none

/-- The rest of the current line with its newline, if it has one, and the lines after it. -/
def cutAfterLine : Text → Text × Text
  | [] => ([], [])
  | c :: rest =>
    if c = '\n' then (['\n'], rest)
    else
      let (line, after) := cutAfterLine rest
      (c :: line, after)

/-- The longest beginning of the text that takes at most `n` bytes, and the rest. -/
def cutAtByte : Nat → Text → Text × Text
  | _, [] => ([], [])
  | n, c :: rest =>
    if c.utf8Size ≤ n then
      let (before, after) := cutAtByte (n - c.utf8Size) rest
      (c :: before, after)
    else ([], c :: rest)

@[simp] theorem byteSize_append (s t : Text) : byteSize (s ++ t) = byteSize s + byteSize t := by
  induction s with
  | nil => simp [byteSize]
  | cons c s ih => simp [byteSize, ih, Nat.add_assoc]

theorem notAfter_cons_iff {c d : Char} {s t : Text} :
    notAfter (c :: s) (d :: t) ↔ c.toNat < d.toNat ∨ (c = d ∧ notAfter s t) := by
  simp [notAfter]

@[simp] theorem notAfter_refl (t : Text) : notAfter t t := by
  induction t with
  | nil => rfl
  | cons c t ih => exact notAfter_cons_iff.2 (.inr ⟨rfl, ih⟩)

theorem notAfter_total (s t : Text) : notAfter s t ∨ notAfter t s := by
  induction s generalizing t with
  | nil => exact .inl rfl
  | cons c s ih =>
    cases t with
    | nil => exact .inr rfl
    | cons d t =>
      rcases Nat.lt_trichotomy c.toNat d.toNat with h | h | h
      · exact .inl (notAfter_cons_iff.2 (.inl h))
      · have hcd : c = d := Char.toNat_inj.1 h
        exact (ih t).imp (fun hs => notAfter_cons_iff.2 (.inr ⟨hcd, hs⟩))
          (fun ht => notAfter_cons_iff.2 (.inr ⟨hcd.symm, ht⟩))
      · exact .inr (notAfter_cons_iff.2 (.inl h))

theorem notAfter_antisymm {s t : Text} (hst : notAfter s t) (hts : notAfter t s) : s = t := by
  induction s generalizing t with
  | nil =>
    cases t with
    | nil => rfl
    | cons d t => exact absurd hts (by simp [notAfter])
  | cons c s ih =>
    cases t with
    | nil => exact absurd hst (by simp [notAfter])
    | cons d t =>
      rcases notAfter_cons_iff.1 hst with h | ⟨rfl, h⟩
      · rcases notAfter_cons_iff.1 hts with h' | ⟨rfl, _⟩ <;> omega
      · rcases notAfter_cons_iff.1 hts with h' | ⟨_, h'⟩
        · omega
        · rw [ih h h']

theorem notAfter_trans {s t u : Text} (hst : notAfter s t) (htu : notAfter t u) : notAfter s u := by
  induction s generalizing t u with
  | nil => rfl
  | cons c s ih =>
    cases t with
    | nil => exact absurd hst (by simp [notAfter])
    | cons d t =>
      cases u with
      | nil => exact absurd htu (by simp [notAfter])
      | cons e u =>
        refine notAfter_cons_iff.2 ?_
        rcases notAfter_cons_iff.1 hst with h | ⟨rfl, h⟩
        · rcases notAfter_cons_iff.1 htu with h' | ⟨rfl, _⟩
          · exact .inl (by omega)
          · exact .inl h
        · rcases notAfter_cons_iff.1 htu with h' | ⟨rfl, h'⟩
          · exact .inl h'
          · exact .inr ⟨rfl, ih h h'⟩

theorem append_of_cutAtFirst {pat t before after : Text}
    (h : t.cutAtFirst pat = some (before, after)) : before ++ after = t := by
  induction t generalizing before after with
  | nil =>
    unfold cutAtFirst at h
    split at h <;> simp_all
  | cons c rest ih =>
    unfold cutAtFirst at h
    split at h
    · simp_all
    · obtain ⟨⟨b, a⟩, hcut, heq⟩ := Option.map_eq_some_iff.1 h
      obtain ⟨rfl, rfl⟩ := Prod.mk.inj heq
      simp [ih hcut]

theorem append_of_cutAtLast {c : Char} {t before after : Text}
    (h : cutAtLast c t = some (before, after)) : before ++ after = t := by
  induction t generalizing before after with
  | nil => simp [cutAtLast] at h
  | cons x rest ih =>
    unfold cutAtLast at h
    split at h
    · rename_i b a hcut
      obtain ⟨rfl, rfl⟩ := Prod.mk.inj (Option.some.inj h)
      simp [ih hcut]
    · split at h <;> simp_all

theorem cutAfterLine_append (t : Text) : (cutAfterLine t).1 ++ (cutAfterLine t).2 = t := by
  induction t with
  | nil => rfl
  | cons c rest ih =>
    unfold cutAfterLine
    split
    · simp_all
    · simpa using ih

theorem cutAtByte_append (n : Nat) (t : Text) : (cutAtByte n t).1 ++ (cutAtByte n t).2 = t := by
  induction t generalizing n with
  | nil => simp [cutAtByte]
  | cons c rest ih =>
    unfold cutAtByte
    split
    · simpa using ih _
    · rfl

end Text

end Scaffold
