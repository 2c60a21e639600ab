import Mathlib.Tactic.Common
/-!
# Streaming digests

A digest is computed by three callbacks over a context: one starts, one takes the next bytes and one gives the digest.
Any of them may fail. `Streams` says that what they compute is one function of the bytes taken since the last start;
`fed` is these bytes, so the digest does not depend on how they were cut into pieces.
-/

namespace StreamHash

variable {κ β δ : Type*}

/-- The callbacks of a digest. -/
structure Hasher (κ β δ : Type*) where
  start : κ → κ × Bool
  update : κ → List β → κ × Bool
  finish : κ → κ × Option δ

/-- The callbacks compute `digest` of the bytes since the last start, where they answer. -/
structure Streams (h : Hasher κ β δ) (digest : List β → δ) (fed : κ → List β) : Prop where
  start : ∀ k, (h.start k).2 = true → fed (h.start k).1 = []
  update : ∀ k bs, (h.update k bs).2 = true → fed (h.update k bs).1 = fed k ++ bs
  finish : ∀ k d, (h.finish k).2 = some d → d = digest (fed k)

/-- The callbacks always answer. -/
structure Answers (h : Hasher κ β δ) : Prop where
  start : ∀ k, (h.start k).2 = true
  update : ∀ k bs, (h.update k bs).2 = true
  finish : ∀ k, (h.finish k).2.isSome = true

/-- The digest that is given, if the callbacks answer. -/
theorem Streams.finish_eq {h : Hasher κ β δ} {digest : List β → δ} {fed : κ → List β} (hs : Streams h digest fed)
    {k : κ} (ha : (h.finish k).2.isSome = true) : (h.finish k).2 = some (digest (fed k)) := by
  obtain ⟨d, hd⟩ := Option.isSome_iff_exists.1 ha
  rw [hd, hs.finish k d hd]

/-! ## The plain digest -/

/-- A digest that keeps the bytes until the end. -/
def plain (digest : List β → δ) : Hasher (List β) β δ where
  start _ := ([], true)
  update k bs := (k ++ bs, true)
  finish k := (k, some (digest k))

theorem plain_streams (digest : List β → δ) : Streams (plain digest) digest id where
  start _ _ := rfl
  update _ _ _ := rfl
  finish _ _ h := (Option.some.inj h).symm

theorem plain_answers (digest : List β → δ) : Answers (plain digest) where
  start _ := rfl
  update _ _ := rfl
  finish _ := rfl

end StreamHash
