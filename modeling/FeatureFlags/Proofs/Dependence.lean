import FeatureFlags.Proofs.Termination

/-!
What the outcome of an evaluation depends on. Where two settings agree on the items that are reached
from a flag, the flag has the same outcome in both or has none in either; so nothing can change an
outcome that no reference leads to.
-/
namespace FeatureFlags

variable {first second : Setting} {items : Item → Prop} {flag : Flag}

theorem Flag.evaluate_congr (hrecording : first.recording = second.recording)
    (hagree : first.AgreeOn second items) (hclosed : first.catalog.Closed items)
    (hflag : items (.flag flag)) (depth : ℕ) (t : Trail) :
    flag.evaluate first depth t = flag.evaluate second depth t := by
  have hR : Trail.IsCongruence first.recording second.recording Eq :=
    hrecording ▸ Trail.isCongruence_eq first.recording
  have hR' : Trail.IsCongruence second.recording first.recording Eq :=
    hrecording ▸ Trail.isCongruence_eq first.recording
  apply Option.ext
  intro result
  constructor
  · exact (evaluate_simulates hR hagree hclosed le_rfl hflag).eq_some
  · exact (evaluate_simulates hR' hagree.symm (hagree.closed hclosed) le_rfl hflag).eq_some

namespace Setting

/-- So the outcomes are equal at every depth. -/
theorem outcome?_congr (hrecording : first.recording = second.recording)
    (hagree : first.AgreeOn second items) (hclosed : first.catalog.Closed items)
    (hflag : items (.flag flag)) (depth : ℕ) :
    first.outcome? depth flag = second.outcome? depth flag := by
  unfold outcome?
  rw [Flag.evaluate_congr hrecording hagree hclosed hflag]

/-- No depth gives an outcome in one of the settings that it does not give in the other. -/
theorem outcome_depends_on_reached (first second : Setting) (flag : Flag)
    (hrecording : first.recording = second.recording)
    (hagree : first.AgreeOn second (first.catalog.Reaches (.flag flag))) :
    ∀ depth, first.outcome? depth flag = second.outcome? depth flag :=
  outcome?_congr hrecording hagree (first.catalog.closed_reaches _) .start

/-- Requires `payments`, and asks about the segment `beta` and for an account. -/
def checkout : Flag where
  key := "checkout"
  on := true
  prerequisites := [⟨"payments", 0⟩]
  rules := [{
    clauses := [{ op := .segmentMatch, values := [.string "beta"] }]
    serve := .rollout ⟨[⟨1, 100000⟩], some "account"⟩ }]
  fallthrough := .variation 0
  variations := [.bool true, .bool false]

def payments : Flag where
  key := "payments"
  on := true
  fallthrough := .variation 0
  variations := [.bool true]

def beta : Segment where
  key := "beta"
  rules := [{
    clauses := [{ attributeName := "plan", op := .in, values := [.string "pro"] }]
    weight := some 50000
    bucketBy := some "account" }]

def checkoutBeside (banner : Descriptor) : Dataset where
  flags := (((∅ : Keyed Descriptor).insert "checkout" (.ofItem (.flag checkout))).insert "payments"
    (.ofItem (.flag payments))).insert "banner" banner
  segments := (∅ : Keyed Descriptor).insert "beta" (.ofItem (.segment beta))

def customerFrom (country : String) : Subject where
  key := "alice"
  custom := ((∅ : Keyed Attribute).insert "plan" (.string "free")).insert "country" (.string country)

/-- A setting with a live banner, and one with a banner that was deleted and a customer from
elsewhere. -/
def checkoutHere : Setting :=
  (checkoutBeside (.ofItem (.flag payments))).setting Murmur3.bucketer (customerFrom "DE") true

def checkoutThere : Setting :=
  (checkoutBeside (.tombstone 2)).setting Murmur3.bucketer (customerFrom "FR") true

def OfCheckout (item : Item) : Prop :=
  item = .flag checkout ∨ item = .flag payments ∨ item = .segment beta

/-- These are all the items that `checkout` leads to. -/
theorem closed_ofCheckout : checkoutHere.catalog.Closed OfCheckout where
  flag := by
    rintro item key other (rfl | rfl | rfl) hkey hfound
    · rw [List.mem_singleton.mp hkey] at hfound
      cases hfound
      exact .inr (.inl rfl)
    · exact absurd hkey List.not_mem_nil
    · exact absurd hkey List.not_mem_nil
  segment := by
    rintro item key other (rfl | rfl | rfl) hkey hfound
    · rw [List.mem_singleton.mp hkey] at hfound
      cases hfound
      exact .inr (.inr rfl)
    · exact absurd hkey List.not_mem_nil
    · exact absurd hkey List.not_mem_nil

theorem agreeOn_ofCheckout : checkoutHere.AgreeOn checkoutThere OfCheckout where
  bucketer := rfl
  key := rfl
  secondary := rfl
  value := by
    rintro item (rfl | rfl | rfl) name hname
    · rcases List.mem_pair.mp hname with rfl | rfl <;> rfl
    · exact absurd hname List.not_mem_nil
    · rcases List.mem_pair.mp hname with rfl | rfl <;> rfl
  flag := by
    rintro item (rfl | rfl | rfl) key hkey
    · rw [List.mem_singleton.mp hkey]
      rfl
    · exact absurd hkey List.not_mem_nil
    · exact absurd hkey List.not_mem_nil
  segment := by
    rintro item (rfl | rfl | rfl) key hkey
    · rw [List.mem_singleton.mp hkey]
      rfl
    · exact absurd hkey List.not_mem_nil
    · exact absurd hkey List.not_mem_nil

/-- Neither the banner nor the country makes a difference to `checkout`. -/
theorem checkout_same_elsewhere :
    checkoutHere.catalog.flag? "banner" = some payments ∧
      checkoutThere.catalog.flag? "banner" = none ∧
      checkoutHere.subject.value? "country" ≠ checkoutThere.subject.value? "country" ∧
      checkoutHere.AgreeOn checkoutThere (checkoutHere.catalog.Reaches (.flag checkout)) ∧
      (∀ depth, checkoutHere.outcome? depth checkout = checkoutThere.outcome? depth checkout) ∧
      checkoutThere.outcome? 2 checkout = some ⟨⟨some (.bool true), some 0, .fallthrough⟩,
        [⟨payments, "checkout", ⟨some (.bool true), some 0, .fallthrough⟩⟩], []⟩ := by
  have hagree : checkoutHere.AgreeOn checkoutThere (checkoutHere.catalog.Reaches (.flag checkout)) :=
    agreeOn_ofCheckout.mono fun _ => closed_ofCheckout.of_reaches (.inl rfl)
  have hdiffers : checkoutHere.subject.value? "country" ≠ checkoutThere.subject.value? "country" := by
    intro h
    have hcountry : "DE" = "FR" := Attribute.string.inj (Option.some.inj h)
    exact absurd hcountry (by decide)
  exact ⟨rfl, rfl, hdiffers, hagree,
    outcome_depends_on_reached checkoutHere checkoutThere checkout rfl hagree, rfl⟩

end Setting

end FeatureFlags
