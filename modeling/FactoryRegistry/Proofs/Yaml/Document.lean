import FactoryRegistry.Proofs.Yaml.Content
import FactoryRegistry.Proofs.Yaml.Token
import FactoryRegistry.Yaml.Document

/-!
# Documents without a value

A step of making values is `Constructing.Accounted` if its errors are: it breaks a rule of the
format, or a scalar has no value for one of the causes of `Failure.Unmakeable`. All steps are, one
after another, up to those that fill the collections of a document (`accounted_fill`). So a document
is not read because it breaks a rule of the format, or because a value in it cannot be made for one
of these causes (`accounted_read`).
-/

namespace FactoryRegistry.Yaml

/-! ## Scalars -/

/-- A `Graph.scalarText` is missing where a node has no text, or where the search for it goes round
in a circle. -/
theorem accounted_scalarText (g : Graph) (fuel n : Nat) :
    FailsOnly Error.Accounted (g.scalarText fuel n) := by
  induction fuel generalizing n with
  | zero => exact accounted_unusable .endless
  | succ fuel ih =>
    rw [Graph.scalarText]
    split
    · exact .ok
    · split
      · exact ih _
      · exact accounted_malformed

/-- A `Graph.scalar` is missing for want of a text or of a value of the text. -/
theorem accounted_scalar (g : Graph) (n : Nat) : FailsOnly Error.Accounted (g.scalar n) := by
  refine (accounted_scalarText g _ n).bind fun text => ?_
  split
  · exact accounted_unusable .mapping
  · exact accounted_scalarValue _ _

/-! ## Collections -/

namespace Constructing

variable {α β : Type} {x : Constructing α}

/-- A step fails only with errors that are `Error.Accounted`, whatever has been made before. -/
def Accounted (x : Constructing α) : Prop := ∀ s, FailsOnly Error.Accounted (x.run s)

namespace Accounted

protected theorem pure {a : α} : Accounted (pure a) := fun _ => .pure

/-- A sequence of steps is `Accounted` if each of them is. -/
protected theorem bind {f : α → Constructing β} (hx : x.Accounted) (hf : ∀ a, (f a).Accounted) :
    Accounted (x >>= f) := fun s => (hx s).bind fun result => hf result.1 result.2

protected theorem map {f : α → β} (hx : x.Accounted) : Accounted (f <$> x) :=
  hx.bind fun _ => .pure

protected theorem get : Accounted get := fun _ => .pure

protected theorem set (s : Construction) : Accounted (set s) := fun _ => .pure

protected theorem modify (f : Construction → Construction) : Accounted (modify f) := fun _ => .pure

/-- A failure outside of the steps is `Accounted` for as before. -/
protected theorem lift {y : Except Error α} (hy : FailsOnly Error.Accounted y) :
    Accounted (liftM y : Constructing α) := fun _ => hy.bind fun _ => .pure

/-- Steps for one part after another are `Accounted` if each of them is. -/
protected theorem mapM {f : α → Constructing β} (hf : ∀ a, (f a).Accounted) (as : List α) :
    Accounted (as.mapM f) := by
  induction as with
  | nil => exact .pure
  | cons a as ih =>
    rw [List.mapM_cons]
    exact (hf a).bind fun _ => ih.bind fun _ => .pure

end Accounted

theorem accounted_refuse : Accounted (refuse : Constructing α) := fun _ => accounted_throw

theorem accounted_required (found : Option α) : Accounted (required found) := by
  cases found with
  | none => exact accounted_refuse
  | some a => exact .pure

/-- A `part` is refused if its tag is none of a value, or is a scalar without a value. -/
theorem accounted_part (n : Nat) : (part n).Accounted := by
  refine .bind .get fun s => ?_
  split
  · exact .pure
  · extract_lets record
    have hrecord : ∀ p, (record p).Accounted := fun _ => .bind (.modify _) fun _ => .pure
    split
    case h_8 => exact .bind (.map (.lift (accounted_scalar _ n))) hrecord
    case h_5 | h_6 | h_7 => exact .bind accounted_refuse hrecord
    all_goals exact .bind (.set _) fun _ => .bind .pure hrecord

/-- A `key` is refused if it is no `part`, or a collection. -/
theorem accounted_key (n : Nat) : (key n).Accounted := by
  refine .bind (accounted_part n) fun p => ?_
  split
  · exact .pure
  · exact accounted_refuse

/-- The `entries` of a mapping are refused if a merge key, a key or a value is. -/
theorem accounted_entries (n : Nat) : (entries n).Accounted := by
  refine .bind .get fun s => .bind (accounted_required _) fun g => .bind (.modify _) fun _ =>
    .bind (accounted_required _) fun found => .mapM (fun x => ?_) found
  exact .bind (accounted_key x.1) fun _ => .bind (accounted_part x.2) fun _ => .pure

/-- A `pair` is refused if it is no mapping with one entry, or if one of its parts is. -/
theorem accounted_pair (n : Nat) : (pair n).Accounted := by
  refine .bind .get fun s => ?_
  split
  · exact .bind (accounted_part _) fun _ => .bind (accounted_part _) fun _ => .pure
  · exact accounted_refuse

/-- A `collection` is refused if its node is of another form, or if one of its parts is. -/
theorem accounted_collection (n : Nat) : (collection n).Accounted := by
  refine .bind .get fun s => ?_
  dsimp only
  split
  · exact .bind (accounted_required _) fun _ => .bind (.mapM accounted_part _) fun _ => .pure
  · exact .bind (accounted_required _) fun _ => .bind (.mapM accounted_pair _) fun _ => .pure
  · exact .bind (accounted_entries n) fun _ => .pure
  · exact .bind (accounted_entries n) fun _ => .pure

/-- `fill` makes the collections that wait one after another, as long as none is refused. The
induction is on `fuel`. -/
theorem accounted_fill (fuel : Nat) : (fill fuel).Accounted := by
  induction fuel with
  | zero => exact .pure
  | succ fuel ih =>
    refine .bind .get fun s => ?_
    split
    · exact .pure
    · exact .bind (.modify _) fun _ => .bind (accounted_collection _) fun _ =>
        .bind (.modify _) fun _ => ih

end Constructing

/-! ## Whole documents -/

/-- `Graph.read` finds no nodes if the tokens are in the wrong places, or if they end too early. -/
theorem accounted_graphRead (cs : List Char) : FailsOnly Error.Accounted (Graph.read cs) := by
  have htokens := accounted_tokens cs
  rw [Graph.read]
  generalize tokens cs = result at htokens ⊢
  obtain ⟨ts, error⟩ := result
  dsimp only
  split
  · exact .ok
  · exact accounted_malformed
  · cases error with
    | none => exact accounted_malformed
    | some e => exact .error (htokens e rfl)

/-- `Graph.value` gives the nodes values, or the first one that has none is `Accounted` for. -/
theorem accounted_graphValue (next root : Nat) (g : Graph) :
    FailsOnly Error.Accounted (g.value next root) := by
  have hsteps : Constructing.Accounted (do
      let top ← Constructing.part root
      Constructing.fill g.length
      return top) :=
    .bind (Constructing.accounted_part root) fun _ =>
      .bind (Constructing.accounted_fill _) fun _ => .pure
  exact (hsteps _).bind fun _ => .pure

/-- `read` fails because the document breaks a rule of the format, or because a value in it cannot
be made. -/
theorem accounted_read (next : Nat) (text : String) :
    FailsOnly Error.Accounted (read next text) := by
  unfold read
  extract_lets cs rest
  have hrest : ∀ u, FailsOnly Error.Accounted (rest u) := fun _ =>
    (accounted_graphRead cs).bind fun result => by
      split
      · exact accounted_graphValue _ _ _
      · exact .pure
  exact .ite (accounted_throw.bind hrest) (hrest ())

end FactoryRegistry.Yaml
