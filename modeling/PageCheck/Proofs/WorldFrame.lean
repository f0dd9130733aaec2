import PageCheck.Browser.World
import PageCheck.Proofs.Browses

/-!
What the operations of the in-memory browser leave as it is. Looking and waiting keep every
invariant that the passing of time keeps; of the operations that change the page, only loads and
clicks put anything into the console, and only draining takes anything out.
-/
namespace PageCheck.Browser.World

variable {α : Type} {I : World → Prop}

def Timeless (I : World → Prop) : Prop := ∀ w time, I w → I (w.pass time)

theorem lookKeeps (view : Session → Nat → α) : Keeps I (look view) :=
  keepsResult.mpr fun _ held => held

theorem lookAtKeeps (view : Session → Nat → Except HostError α) : Keeps I (lookAt view) := by
  refine keepsResult.mpr fun w held => ?_
  unfold lookAt
  cases view w.session w.now with
  | ok value => exact held
  | error e => exact held

theorem findAllKeeps (l : Locator) : Keeps I (findAll l) := lookKeeps _

theorem findWithinKeeps (parent : Handle) (l : Locator) : Keeps I (findWithin parent l) :=
  lookAtKeeps _

theorem readKeeps (h : Handle) (view : Node → α) : Keeps I (read h view) := lookAtKeeps _

theorem updateKeeps {f : Session → Session}
    (kept : ∀ w, I w → I { w with session := f w.session }) :
    Keeps I (update f) :=
  keepsResult.mpr kept

theorem awaitKeeps (timeless : Timeless I) {question : Operation (Option α)}
    (keeps : Keeps I question) (expired : HostError) (ticks : Nat) :
    Keeps I (await question expired ticks) := by
  induction ticks with
  | zero =>
    refine keeps.bind fun found => ?_
    cases found with
    | some found => exact .pure _
    | none => exact .throw _
  | succ ticks ih =>
    refine keeps.bind fun found => ?_
    cases found with
    | some found => exact .pure _
    | none => exact Alike.bind (keepsResult.mpr fun w held => timeless w tick held) fun _ => ih

theorem waitLocatedKeeps (timeless : Timeless I) (l : Locator) (time : Nat) :
    Keeps I (waitLocated l time) :=
  awaitKeeps timeless (Alike.map _ (findAllKeeps l)) _ _

theorem waitVisibleKeeps (timeless : Timeless I) (h : Handle) (time : Nat) :
    Keeps I (waitVisible h time) :=
  awaitKeeps timeless (Alike.map _ (readKeeps h _)) _ _

theorem editKeeps {h : Handle} {f : Node → Node}
    (kept : ∀ w, I w → I { w with session := w.session.changeAt h.index f }) :
    Keeps I (edit h f) :=
  Alike.bind (readKeeps h id) fun _ => updateKeeps kept

def Pending (entries : List String) (w : World) : Prop := w.session.console = entries

variable {entries : List String}

theorem pendingTimeless : Timeless (Pending entries) := fun _ _ held => held

theorem editPending (h : Handle) (f : Node → Node) : Keeps (Pending entries) (edit h f) :=
  editKeeps fun _ held => held

theorem answerPending (accepted : Bool) (time : Nat) :
    Keeps (Pending entries) (answer accepted time) := by
  refine awaitKeeps pendingTimeless (keepsResult.mpr fun w held => ?_) _ _
  unfold answerOpen
  cases w.session.dialog with
  | none => exact held
  | some text => exact held

theorem enterFramePending (l : Locator) : Keeps (Pending entries) (enterFrame l) := by
  refine Alike.bind (findAllKeeps l) fun found => ?_
  cases found with
  | nil => exact .throw _
  | cons first rest => exact Alike.bind (readKeeps first _) fun _ => updateKeeps fun _ held => held

theorem leaveFramesPending : Keeps (Pending entries) leaveFrames := updateKeeps fun _ held => held

end PageCheck.Browser.World
