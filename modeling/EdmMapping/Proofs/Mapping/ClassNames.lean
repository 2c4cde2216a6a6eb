import EdmMapping.Proofs.Mapping.Classes

/-!
# Names of classes

Declared types have different names, but the names of their classes are capitalised, and a manifest
is not asked whether they are different then.  Two classes have one name exactly if the names of
their types are capital variants; it cannot happen as long as all names are capitalised.

* `CapitalVariants` — names that differ in what they begin with, and become one when capitalised;
* `upperFirst_eq_iff_capitalVariants` — these are all of the names that do;
* `classNames_nodup_iff` — the classes of a mapping have different names exactly if no two types of
  the manifest have variants of one name;
* `classNames_not_always_nodup` — there is a manifest with two classes of one name.
-/

set_option autoImplicit false

namespace EdmMapping

open Unicode

/-! ## Capital variants -/

/-- The capital of the first character of `b` begins with that of `a`; the rest of the capital comes
next in `a`, and then both names go on alike. -/
def CapitalExtends (a b : String) : Prop :=
  ∃ c d between rest, a.toList = c :: (between ++ rest) ∧ b.toList = d :: rest ∧
    uppercase d = uppercase c ++ between

/-- The names begin with characters of one capital, or one of them spells the capital of the other
out in several characters, and they go on alike. -/
def CapitalVariants (a b : String) : Prop := CapitalExtends a b ∨ CapitalExtends b a

theorem CapitalExtends.upperFirst_eq {a b : String} (h : CapitalExtends a b) :
    upperFirst a = upperFirst b := by
  obtain ⟨c, d, between, rest, ha, hb, hcapital⟩ := h
  rw [upperFirst_eq_iff, ha, hb, upperFirstChars, upperFirstChars, hcapital, List.append_assoc]

/-- **Which names become one when capitalised**: capital variants, and no others. -/
theorem upperFirst_eq_iff_capitalVariants {a b : String} (ha : a ≠ "") (hb : b ≠ "") :
    upperFirst a = upperFirst b ↔ CapitalVariants a b := by
  constructor
  · intro h
    rw [upperFirst_eq_iff] at h
    cases hchars : a.toList with
    | nil => exact absurd (String.toList_eq_nil_iff.1 hchars) ha
    | cons c x =>
      cases hchars' : b.toList with
      | nil => exact absurd (String.toList_eq_nil_iff.1 hchars') hb
      | cons d y =>
        rw [hchars, hchars', upperFirstChars, upperFirstChars, List.append_eq_append_iff] at h
        -- one of the capitals is the beginning of the other, and what it lacks comes next
        rcases h with ⟨between, hd, hx⟩ | ⟨between, hc, hy⟩
        · exact .inl ⟨c, d, between, y, by rw [hchars, hx], hchars', hd⟩
        · exact .inr ⟨d, c, between, x, by rw [hchars', hy], hchars, hc⟩
  · rintro (h | h)
    · exact h.upperFirst_eq
    · exact h.upperFirst_eq.symm

/-- A capital may be spelled out. -/
example : CapitalVariants "ßteig" "SSteig" :=
  .inr ⟨'S', 'ß', ['S'], "teig".toList, rfl, rfl, by decide +kernel⟩

/-- The name begins with a character whose capital is one character. -/
def HasSimpleCapital (name : String) : Prop :=
  ∀ c ∈ name.toList.head?, (uppercase c).length = 1

/-- Where capitals are single characters, variants differ in their first character only. -/
theorem CapitalExtends.tail_eq {a b : String} (h : CapitalExtends a b) (ha : HasSimpleCapital a)
    (hb : HasSimpleCapital b) : a.toList.tail = b.toList.tail := by
  obtain ⟨c, d, between, rest, hachars, hbchars, hcapital⟩ := h
  have hc : (uppercase c).length = 1 := ha c (by simp [hachars])
  have hd : (uppercase d).length = 1 := hb d (by simp [hbchars])
  have hlength : (uppercase c).length + between.length = 1 := by
    rw [← List.length_append, ← hcapital, hd]
  have hbetween : between = [] := List.length_eq_zero_iff.1 (by omega)
  rw [hachars, hbchars, hbetween]
  rfl

/-! ## From a manifest to its classes -/

theorem classNames_buildWith (t : Target) (model : Model) :
    (ModelMapping.buildWith t model).classes.map (·.className) =
      (model.types.map (·.name)).map upperFirst := by
  rw [classes_buildWith, List.map_map, List.map_map]
  rfl

/-- **When classes have different names**, in the mapping of a manifest for Java: exactly if no two
of the declared names are capital variants.  It is so if all of them are capitalised, and if they
begin with characters of simple capitals and differ behind them. -/
theorem classNames_nodup_iff {m : Manifest} {s : Source} {model : Model}
    (h : m.resolveIn s = .ok model) :
    (((ModelMapping.build model).classes.map (·.className)).Nodup ↔
      m.types.keys.Pairwise fun a b => ¬ CapitalVariants a b) ∧
    ((∀ name ∈ m.types.keys, upperFirst name = name) →
      ((ModelMapping.build model).classes.map (·.className)).Nodup) ∧
    ((∀ name ∈ m.types.keys, HasSimpleCapital name) →
      (m.types.keys.Pairwise fun a b => a.toList.tail ≠ b.toList.tail) →
      ((ModelMapping.build model).classes.map (·.className)).Nodup) := by
  have hdesc := Manifest.describes_of_resolveIn h
  have hnames : ∀ name ∈ m.types.keys, name ≠ "" := by
    intro name hname
    obtain ⟨⟨_, spec⟩, hentry, rfl⟩ := List.mem_map.1 hname
    exact ((Manifest.isWellFormed_of_resolveIn h).isName _ spec hentry).1
  have hclasses : (ModelMapping.build model).classes.map (·.className) =
      m.types.keys.map upperFirst := by
    rw [ModelMapping.build, classNames_buildWith, hdesc.names_eq]
  have hiff : (m.types.keys.map upperFirst).Nodup ↔
      m.types.keys.Pairwise fun a b => ¬ CapitalVariants a b := by
    unfold List.Nodup
    rw [List.pairwise_map]
    refine List.Pairwise.iff_of_mem fun {a b} ha hb => ?_
    rw [ne_eq, upperFirst_eq_iff_capitalVariants (hnames a ha) (hnames b hb)]
  rw [hclasses]
  refine ⟨hiff, ?_, ?_⟩
  · intro hcapital
    have hself : m.types.keys.map upperFirst = m.types.keys := by
      rw [List.map_congr_left hcapital, List.map_id'']
      exact fun _ => rfl
    rw [hself]
    exact m.types.nodup_keys
  · intro hsimple htails
    rw [hiff]
    refine htails.imp_of_mem fun {a b} ha hb htail => ?_
    rintro (hextends | hextends)
    · exact htail (hextends.tail_eq (hsimple a ha) (hsimple b hb))
    · exact htail (hextends.tail_eq (hsimple b hb) (hsimple a ha)).symm

/-- A shop with two types of orders, whose names differ in a capital. -/
def ordersManifest : Manifest where
  ns := "Shop"
  types := ⟨[("order", ⟨.entity, false, .empty⟩), ("Order", ⟨.complex, false, .empty⟩)], by decide⟩

def ordersModel : Model where
  ns := "Shop"
  types := [⟨"order", "Shop", .entity, false, []⟩, ⟨"Order", "Shop", .complex, false, []⟩]

def invoicesManifest : Manifest where
  ns := "Shop"
  types := ⟨[("order", ⟨.entity, false, .empty⟩), ("Invoice", ⟨.entity, false, .empty⟩)], by decide⟩

def invoicesModel : Model where
  ns := "Shop"
  types := [⟨"order", "Shop", .entity, false, []⟩, ⟨"Invoice", "Shop", .entity, false, []⟩]

/-- The two types of orders become one class, an order and an invoice become two. -/
theorem classNames_nodup_iff_orders :
    ordersManifest.resolveIn ⟨"", "orders.toml"⟩ = .ok ordersModel ∧
    ¬ ((ModelMapping.build ordersModel).classes.map (·.className)).Nodup ∧
    invoicesManifest.resolveIn ⟨"", "invoices.toml"⟩ = .ok invoicesModel ∧
    ((ModelMapping.build invoicesModel).classes.map (·.className)).Nodup := by
  have horders : ordersManifest.resolveIn ⟨"", "orders.toml"⟩ = .ok ordersModel := rfl
  have hinvoices : invoicesManifest.resolveIn ⟨"", "invoices.toml"⟩ = .ok invoicesModel := rfl
  refine ⟨horders, ?_, hinvoices, ?_⟩
  · rw [(classNames_nodup_iff horders).1]
    intro hpairwise
    have hvariants : CapitalVariants "order" "Order" :=
      .inl ⟨'o', 'O', [], "rder".toList, rfl, rfl, by decide +kernel⟩
    exact (List.pairwise_cons.1 hpairwise).1 "Order" (by decide) hvariants
  · have ho : uppercase 'o' = ['O'] := by decide +kernel
    have hi : uppercase 'I' = ['I'] := by decide +kernel
    refine (classNames_nodup_iff hinvoices).2.2 ?_ (by decide)
    intro name hname
    have hname : name = "order" ∨ name = "Invoice" := by
      simpa [invoicesManifest, OrderedMap.keys] using hname
    rcases hname with rfl | rfl
    · simp [HasSimpleCapital, ho]
    · simp [HasSimpleCapital, hi]

/-- Different names of types do not make different names of classes. -/
theorem classNames_not_always_nodup :
    ¬ ∀ (m : Manifest) (s : Source) (model : Model), m.resolveIn s = .ok model →
      ((ModelMapping.build model).classes.map (·.className)).Nodup := by
  intro hall
  have hnodup := hall ordersManifest ⟨"", "orders.toml"⟩ ordersModel rfl
  revert hnodup
  decide +kernel

end EdmMapping
