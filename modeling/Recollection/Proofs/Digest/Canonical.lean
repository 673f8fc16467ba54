import Recollection.Digest.Canonical
import Recollection.Proofs.Json.Unambiguous
/-!
# What a digest tells

The canonical text of a document tells all of it but the order of members, and the digest is one of
that text. That digests tell texts apart is not proved, and not true of every text: where two
digests agree and the documents do not, two texts are named that have one digest.
-/

set_option autoImplicit false

namespace Recollection

/-- Two texts have one digest without being the same. -/
def Sha256.Collision (a b : String) : Prop :=
  a ≠ b ∧ Sha256.ofText a = Sha256.ofText b

namespace Json

variable {a b : Json}

/-- Documents have one canonical text exactly when they have one normal form. -/
theorem canonical_eq_iff_normal_eq (ha : a.WellFormed) (hb : b.WellFormed) :
    a.canonical = b.canonical ↔ a.normal = b.normal := by
  constructor
  · exact fun htext => compact_injective ha.normal hb.normal htext
  · exact fun hnormal => congrArg compact hnormal

/-- Documents have one canonical text exactly when they are the same up to the order of members. -/
theorem canonical_eq_iff_alike (ha : a.WellFormed) (hb : b.WellFormed) :
    a.canonical = b.canonical ↔ Alike (· = ·) a b := by
  rw [canonical_eq_iff_normal_eq ha hb, normal_eq_iff_alike ha hb]

/-- Documents with one digest have one normal form, or else their texts collide. -/
theorem normal_eq_or_collision (ha : a.WellFormed) (hb : b.WellFormed)
    (hdigest : a.digest = b.digest) :
    a.normal = b.normal ∨ Sha256.Collision a.canonical b.canonical := by
  by_cases htext : a.canonical = b.canonical
  · exact .inl ((canonical_eq_iff_normal_eq ha hb).1 htext)
  · exact .inr ⟨htext, hdigest⟩

end Json

end Recollection
