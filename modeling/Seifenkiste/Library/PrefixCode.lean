import Mathlib.Data.List.Infix

/-!
# Self-delimiting codes

A code is self-delimiting when a code word tells where it ends: two words, each followed by
anything, that give the same string are words of the same symbol. Concatenations of such words
can be cut back into words in one way only, also when just a prefix of the stream is there.
-/

namespace PrefixCode

variable {α β : Type*}

def SelfDelimiting (enc : α → List β) : Prop :=
  ∀ a b s t, enc a ++ s = enc b ++ t → a = b

/-- A stream that begins another one decodes to a prefix of what the other one decodes to. -/
theorem SelfDelimiting.prefix_of_flatMap {enc : α → List β} (henc : SelfDelimiting enc)
    (hne : ∀ a, enc a ≠ []) (l₁ l₂ : List α) (h : l₁.flatMap enc <+: l₂.flatMap enc) :
    l₁ <+: l₂ := by
  induction l₁ generalizing l₂ with
  | nil => exact List.nil_prefix
  | cons a l₁ ih =>
    obtain ⟨rest, hrest⟩ := h
    rw [List.flatMap_cons, List.append_assoc] at hrest
    cases l₂ with
    | nil =>
      rw [List.flatMap_nil] at hrest
      exact absurd (List.append_eq_nil_iff.mp hrest).1 (hne a)
    | cons b l₂ =>
      rw [List.flatMap_cons] at hrest
      obtain rfl := henc a b _ _ hrest
      have htail : l₁.flatMap enc <+: l₂.flatMap enc := ⟨rest, List.append_cancel_left hrest⟩
      exact List.cons_prefix_cons.mpr ⟨rfl, ih l₂ htail⟩

/-- A fixed-size header that fixes the length of the body after it delimits the pair. -/
theorem selfDelimiting_of_header {hdr body : α → List β} (n : Nat)
    (hlen : ∀ a, (hdr a).length = n)
    (hbody : ∀ a b, hdr a = hdr b → (body a).length = (body b).length)
    (hinj : ∀ a b, hdr a = hdr b → body a = body b → a = b) :
    SelfDelimiting fun a => hdr a ++ body a := by
  intro a b s t h
  simp only [List.append_assoc] at h
  obtain ⟨hhdr, hrest⟩ := List.append_inj h ((hlen a).trans (hlen b).symm)
  exact hinj a b hhdr (List.append_inj_left hrest (hbody a b hhdr))

/-! ### Cutting a stream into pieces -/

variable {γ : Type*} {f : α → List β} {g : γ → List β} {as : List α} {bs : List γ}

/-- Streams that agree and are cut at the same places agree piece by piece. -/
theorem pieces_eq {r r' : List β}
    (hlen : List.Forall₂ (fun a b => (f a).length = (g b).length) as bs)
    (h : as.flatMap f ++ r = bs.flatMap g ++ r') :
    List.Forall₂ (fun a b => f a = g b) as bs ∧ r = r' := by
  induction hlen with
  | nil => exact ⟨List.Forall₂.nil, h⟩
  | cons hab _ ih =>
    rw [List.flatMap_cons, List.flatMap_cons, List.append_assoc, List.append_assoc] at h
    obtain ⟨hhead, htail⟩ := List.append_inj h hab
    obtain ⟨hpieces, hrest⟩ := ih htail
    exact ⟨hpieces.cons hhead, hrest⟩

lemma length_flatMap_le
    (hle : List.Forall₂ (fun a b => (g b).length ≤ (f a).length) as bs) :
    (bs.flatMap g).length ≤ (as.flatMap f).length := by
  induction hle with
  | nil => rfl
  | cons hab _ ih =>
    rw [List.flatMap_cons, List.flatMap_cons, List.length_append, List.length_append]
    exact Nat.add_le_add hab ih

/-- Pieces that are long enough one by one are not too long when they fit in as a whole. -/
theorem lengths_eq_of_le
    (hle : List.Forall₂ (fun a b => (g b).length ≤ (f a).length) as bs)
    (hsum : (as.flatMap f).length ≤ (bs.flatMap g).length) :
    List.Forall₂ (fun a b => (f a).length = (g b).length) as bs := by
  induction hle with
  | nil => exact List.Forall₂.nil
  | cons hab htail ih =>
    have hrest := length_flatMap_le htail
    rw [List.flatMap_cons, List.flatMap_cons, List.length_append, List.length_append] at hsum
    exact (ih (by omega)).cons (by omega)

end PrefixCode
