import TableQuery.Filter

/-!
# Proofs/Grammar — conditions joined by *and* and *or*

    disjunction := conjunction | disjunction 'or' conjunction
    conjunction := term | conjunction 'and' term
    term        := '(' disjunction ')' | comparison

Filters and the conditions of statements are written in one grammar over different tokens, so the
grammar takes its tokens and comparisons from a `Vocabulary`.  **A list of tokens has at most one
tree** (`Derives.unique`), provided the tokens of the vocabulary can be told apart
(`Vocabulary.Separated`).
-/

namespace TableQuery.Grammar

open TableQuery.Filter (Connective)
open Text (eqIgnoreCase)

variable {τ α : Type}

/-- The symbols of the grammar. -/
inductive Symbol where
  | disjunction
  | conjunction
  | term
  deriving DecidableEq

/-- The tokens of a language of conditions, and what they spell. -/
structure Vocabulary (τ α : Type) where
  /-- An opening parenthesis. -/
  opens : τ → Prop
  /-- A closing parenthesis. -/
  closes : τ → Prop
  /-- The word for a connective. -/
  joins : Connective → τ → Prop
  /-- The tokens of a comparison, and the comparison. -/
  leaf : List τ → α → Prop
  /-- Two conditions joined. -/
  join : Connective → α → α → α

/-- **The conditions that tokens spell.**  Both connectives nest to the left, and parentheses leave
no trace. -/
inductive Derives (V : Vocabulary τ α) : Symbol → List τ → α → Prop where
  | conjunction {ts : List τ} {a : α} :
      Derives V .conjunction ts a → Derives V .disjunction ts a
  | or {ts us : List τ} {t : τ} {a b : α} :
      Derives V .disjunction ts a → V.joins .or t → Derives V .conjunction us b →
      Derives V .disjunction (ts ++ t :: us) (V.join .or a b)
  | term {ts : List τ} {a : α} :
      Derives V .term ts a → Derives V .conjunction ts a
  | and {ts us : List τ} {t : τ} {a b : α} :
      Derives V .conjunction ts a → V.joins .and t → Derives V .term us b →
      Derives V .conjunction (ts ++ t :: us) (V.join .and a b)
  | group {ts : List τ} {o c : τ} {a : α} :
      V.opens o → Derives V .disjunction ts a → V.closes c → Derives V .term (o :: ts ++ [c]) a
  | leaf {ts : List τ} {a : α} :
      V.leaf ts a → Derives V .term ts a

theorem Derives.toDisjunction {V : Vocabulary τ α} {s : Symbol} {ts : List τ} {a : α}
    (h : Derives V s ts a) : Derives V .disjunction ts a := by
  cases s with
  | disjunction => exact h
  | conjunction => exact .conjunction h
  | term => exact .conjunction (.term h)

/-! ## Tokens that can be told apart -/

/-- The tokens behind which a symbol cannot go on. -/
def Vocabulary.stops (V : Vocabulary τ α) : Symbol → τ → Prop
  | .term, t => V.closes t ∨ ∃ op, V.joins op t
  | .conjunction, t => V.closes t ∨ V.joins .or t
  | .disjunction, t => V.closes t

/-- Whether a symbol ends in front of a list of tokens. -/
def Vocabulary.Ends (V : Vocabulary τ α) (s : Symbol) (ts : List τ) : Prop :=
  ∀ t ∈ ts.head?, V.stops s t

/-- The tokens of a vocabulary that can be told apart: words and closing parentheses by themselves,
comparisons by their first token and by what stands behind them. -/
structure Vocabulary.Separated (V : Vocabulary τ α) : Prop where
  joins_unique : ∀ {op op' t}, V.joins op t → V.joins op' t → op = op'
  not_closes : ∀ {op t}, V.joins op t → ¬ V.closes t
  leaf_ne_nil : ∀ {ts a}, V.leaf ts a → ts ≠ []
  not_opens : ∀ {t ts a}, V.leaf (t :: ts) a → ¬ V.opens t
  leaf_unique : ∀ {ts us xs ys a b}, V.leaf ts a → V.leaf us b → ts ++ xs = us ++ ys →
    V.Ends .term xs → V.Ends .term ys → ts = us ∧ a = b

/-- **Where a symbol ends, and what it spells, is determined** — for spellings of `n` tokens at
most, between any continuations that the symbol ends in front of. -/
def Determined (V : Vocabulary τ α) (s : Symbol) (n : Nat) : Prop :=
  ∀ {ts us xs ys a b}, ts.length ≤ n → Derives V s ts a → Derives V s us b → ts ++ xs = us ++ ys →
    V.Ends s xs → V.Ends s ys → ts = us ∧ a = b

variable {V : Vocabulary τ α}

theorem Vocabulary.ends_cons {s : Symbol} {t : τ} {ts : List τ} (h : V.stops s t) :
    V.Ends s (t :: ts) := by
  intro x hx
  obtain rfl : t = x := by simpa using hx
  exact h

theorem Vocabulary.ends_nil (s : Symbol) : V.Ends s [] := by simp [Vocabulary.Ends]

/-- **Terms are determined, if shorter disjunctions are** — a term is a comparison, or it holds a
disjunction between parentheses. -/
theorem determined_term (hV : V.Separated) {n : Nat}
    (ih : ∀ m < n, Determined V .disjunction m) : Determined V .term n := by
  intro ts us xs ys a b hn ha hb h hxs hys
  cases ha with
  | leaf ha =>
    cases hb with
    | leaf hb => exact hV.leaf_unique ha hb h hxs hys
    | group ho _ _ =>
      obtain ⟨t, ts, rfl⟩ := List.exists_cons_of_ne_nil (hV.leaf_ne_nil ha)
      obtain ⟨rfl, -⟩ := List.cons.inj h
      exact absurd ho (hV.not_opens ha)
  | @group ts o c _ ho ha hc =>
    cases hb with
    | leaf hb =>
      obtain ⟨t, us, rfl⟩ := List.exists_cons_of_ne_nil (hV.leaf_ne_nil hb)
      obtain ⟨rfl, -⟩ := List.cons.inj h
      exact absurd ho (hV.not_opens hb)
    | @group us o' c' _ _ hb hc' =>
      have hin : o = o' ∧ ts ++ c :: xs = us ++ c' :: ys := by simpa using h
      obtain ⟨rfl, hin⟩ := hin
      have hlen : ts.length < n := by
        simp only [List.length_append, List.length_cons, List.length_nil] at hn
        omega
      obtain ⟨rfl, rfl⟩ := ih ts.length hlen (Nat.le_refl _) ha hb hin
        (Vocabulary.ends_cons hc) (Vocabulary.ends_cons hc')
      obtain ⟨rfl, -⟩ := List.cons.inj (List.append_cancel_left hin)
      exact ⟨rfl, rfl⟩

/-- Two words that one text stands for differ at most in the case of their letters. -/
theorem lower_eq_of_eqIgnoreCase {s t u : String} (ht : eqIgnoreCase s t = true)
    (hu : eqIgnoreCase s u = true) : t.toList.map Char.toLower = u.toList.map Char.toLower := by
  simp only [eqIgnoreCase, beq_iff_eq] at ht hu
  exact ht.symm.trans hu

theorem connective_unique {s : String} {op op' : Connective}
    (h : eqIgnoreCase s op.keyword = true) (h' : eqIgnoreCase s op'.keyword = true) : op = op' := by
  have hlower := lower_eq_of_eqIgnoreCase h h'
  revert hlower
  cases op <;> cases op' <;> decide

/-! ## Chains of operands

Read from the left, a conjunction is a term and then a **tail**: more terms, each behind an *and*.
The tail is kept as what it makes of the tree in front of it.  A disjunction is the same one symbol
higher. -/

/-- The operands behind the first one of a chain, each behind the word for `op`. -/
inductive Tail (V : Vocabulary τ α) (op : Connective) (s : Symbol) : List τ → (α → α) → Prop where
  | nil : Tail V op s [] id
  | cons {us vs : List τ} {t : τ} {b : α} {k : α → α} :
      V.joins op t → Derives V s us b → Tail V op s vs k →
      Tail V op s (t :: us ++ vs) fun a => k (V.join op a b)

/-- A chain: its first operand, and its tail. -/
def Chain (V : Vocabulary τ α) (op : Connective) (s : Symbol) (ts : List τ) (a : α) : Prop :=
  ∃ us vs b k, ts = us ++ vs ∧ Derives V s us b ∧ Tail V op s vs k ∧ a = k b

theorem Tail.snoc {op : Connective} {s : Symbol} {ts us : List τ} {t : τ} {b : α} {k : α → α}
    (h : Tail V op s ts k) (ht : V.joins op t) (hb : Derives V s us b) :
    Tail V op s (ts ++ t :: us) fun a => V.join op (k a) b := by
  induction h with
  | nil => simpa using Tail.cons ht hb .nil
  | cons ht' hb' _ ih => simpa using Tail.cons ht' hb' ih

theorem Chain.single {op : Connective} {s : Symbol} {ts : List τ} {a : α} (h : Derives V s ts a) :
    Chain V op s ts a := ⟨ts, [], a, id, by simp, h, .nil, rfl⟩

theorem Chain.snoc {op : Connective} {s : Symbol} {ts us : List τ} {t : τ} {a b : α}
    (h : Chain V op s ts a) (ht : V.joins op t) (hb : Derives V s us b) :
    Chain V op s (ts ++ t :: us) (V.join op a b) := by
  obtain ⟨us', vs, c, k, rfl, hc, hk, rfl⟩ := h
  exact ⟨us', vs ++ t :: us, c, fun a => V.join op (k a) b, by simp, hc, hk.snoc ht hb, rfl⟩

theorem Derives.chain_of_conjunction {ts : List τ} {a : α} (h : Derives V .conjunction ts a) :
    Chain V .and .term ts a := by
  generalize hs : Symbol.conjunction = s at h
  induction h with
  | term h => exact .single h
  | and _ ht hb ih => exact (ih hs).snoc ht hb
  | conjunction | or | group | leaf => cases hs

theorem Derives.chain_of_disjunction {ts : List τ} {a : α} (h : Derives V .disjunction ts a) :
    Chain V .or .conjunction ts a := by
  generalize hs : Symbol.disjunction = s at h
  induction h with
  | conjunction h => exact .single h
  | or _ ht hb ih => exact (ih hs).snoc ht hb
  | term | and | group | leaf => cases hs

/-- What stands behind an operand of a chain: the rest of the chain, or what stands behind that. -/
theorem Tail.ends {op : Connective} {s : Symbol} {ts xs : List τ} {k : α → α}
    (h : Tail V op s ts k) (hjoin : ∀ t, V.joins op t → V.stops s t) (hxs : V.Ends s xs) :
    V.Ends s (ts ++ xs) := by
  cases h with
  | nil => exact hxs
  | cons ht _ _ => exact Vocabulary.ends_cons (hjoin _ ht)

/-- **Tails are determined, if their operands are.** -/
theorem tail_determined {op : Connective} {s : Symbol} {n : Nat} (hs : Determined V s n)
    (hjoin : ∀ t, V.joins op t → V.stops s t) {ts us xs ys : List τ} {k k' : α → α}
    (hk : Tail V op s ts k) (hk' : Tail V op s us k') (hn : ts.length ≤ n)
    (h : ts ++ xs = us ++ ys) (hxs : V.Ends s xs) (hys : V.Ends s ys)
    (hxop : ∀ t ∈ xs.head?, ¬ V.joins op t) (hyop : ∀ t ∈ ys.head?, ¬ V.joins op t) :
    ts = us ∧ k = k' := by
  induction hk generalizing us k' with
  | nil =>
    cases hk' with
    | nil => exact ⟨rfl, rfl⟩
    | @cons us' vs t _ _ ht _ _ =>
      obtain rfl : xs = t :: us' ++ vs ++ ys := by simpa using h
      exact absurd ht (hxop t (by simp))
  | @cons us₁ vs₁ t₁ b₁ k₁ ht₁ hb₁ hk₁ ih =>
    cases hk' with
    | nil =>
      obtain rfl : t₁ :: us₁ ++ vs₁ ++ xs = ys := by simpa using h
      exact absurd ht₁ (hyop t₁ (by simp))
    | @cons us₂ vs₂ t₂ b₂ k₂ ht₂ hb₂ hk₂ =>
      have hsplit : t₁ = t₂ ∧ us₁ ++ (vs₁ ++ xs) = us₂ ++ (vs₂ ++ ys) := by simpa using h
      obtain ⟨rfl, hsplit⟩ := hsplit
      simp only [List.length_append, List.length_cons] at hn
      obtain ⟨rfl, rfl⟩ := hs (by omega) hb₁ hb₂ hsplit (hk₁.ends hjoin hxs) (hk₂.ends hjoin hys)
      obtain ⟨rfl, rfl⟩ := ih hk₂ (by omega) (List.append_cancel_left hsplit)
      exact ⟨rfl, rfl⟩

/-- **Chains are determined, if their operands are.**  A chain stops where its operands stop, its
own connective apart. -/
theorem determined_of_chain {S s : Symbol} {op : Connective} {n : Nat} (hs : Determined V s n)
    (hchain : ∀ {ts a}, Derives V S ts a → Chain V op s ts a)
    (hjoin : ∀ t, V.joins op t → V.stops s t) (hstop : ∀ t, V.stops S t → V.stops s t)
    (hop : ∀ t, V.stops S t → ¬ V.joins op t) : Determined V S n := by
  intro ts us xs ys a b hn ha hb h hxs hys
  obtain ⟨us₁, vs₁, c₁, k₁, rfl, hc₁, hk₁, rfl⟩ := hchain ha
  obtain ⟨us₂, vs₂, c₂, k₂, rfl, hc₂, hk₂, rfl⟩ := hchain hb
  have hxs' : V.Ends s xs := fun t ht => hstop t (hxs t ht)
  have hys' : V.Ends s ys := fun t ht => hstop t (hys t ht)
  simp only [List.length_append, List.append_assoc] at hn h
  obtain ⟨rfl, rfl⟩ := hs (by omega) hc₁ hc₂ h (hk₁.ends hjoin hxs') (hk₂.ends hjoin hys')
  obtain ⟨rfl, rfl⟩ := tail_determined hs hjoin hk₁ hk₂ (by omega) (List.append_cancel_left h)
    hxs' hys' (fun t ht => hop t (hxs t ht)) (fun t ht => hop t (hys t ht))
  exact ⟨rfl, rfl⟩

theorem determined_conjunction (hV : V.Separated) {n : Nat} (h : Determined V .term n) :
    Determined V .conjunction n := by
  refine determined_of_chain h Derives.chain_of_conjunction (fun t ht => Or.inr ⟨_, ht⟩) ?_ ?_
  · rintro t (ht | ht)
    · exact Or.inl ht
    · exact Or.inr ⟨_, ht⟩
  · rintro t (ht | ht) hand
    · exact hV.not_closes hand ht
    · cases hV.joins_unique hand ht

theorem determined_disjunction (hV : V.Separated) {n : Nat} (h : Determined V .conjunction n) :
    Determined V .disjunction n :=
  determined_of_chain h Derives.chain_of_disjunction (fun _ ht => Or.inr ht)
    (fun _ ht => Or.inl ht) fun _ ht hor => hV.not_closes hor ht

theorem determined (hV : V.Separated) (n : Nat) : Determined V .disjunction n := by
  induction n using Nat.strongRecOn with
  | ind n ih => exact determined_disjunction hV (determined_conjunction hV (determined_term hV ih))

/-- **The grammar is unambiguous.** -/
theorem Derives.unique (hV : V.Separated) {ts : List τ} {a b : α}
    (ha : Derives V .disjunction ts a) (hb : Derives V .disjunction ts b) : a = b :=
  (determined hV ts.length (Nat.le_refl _) ha hb rfl (Vocabulary.ends_nil _)
    (Vocabulary.ends_nil _)).2

end TableQuery.Grammar
