import PageCheck.Proofs.WorldFrame

/-!
The in-memory browser under observation: whatever comes into its console is noted together with
the address that is current at that moment, and so is whatever is taken out. Observing changes no
run (`observedRun`). Entries come in by loads and by clicks only.
-/
namespace PageCheck.Browser

structure Logged where
  page : String
  entry : String
  deriving DecidableEq, Repr

namespace Session

def loadLogs (s : Session) (url : String) : List Logged :=
  match s.pages.get? url with
  | none => []
  | some page => page.logs.map fun entry => { page := url, entry }

def effectLogs (s : Session) : Effect → List Logged
  | .navigate url => s.loadLogs url
  | .log entry => [{ page := s.url, entry }]
  | .alert _ | .reveal _ | .setText .. => []

def effectsLogs (now : Nat) (s : Session) : List Effect → List Logged
  | [] => []
  | effect :: rest =>
    s.effectLogs effect ++
      match s.apply now effect with
      | .ok after => effectsLogs now after rest
      | .error _ => []

def clickLogs (now : Nat) (s : Session) (h : Handle) : List Logged :=
  match s.node now h with
  | .ok n => (s.pick h.index n).effectsLogs now n.onClick
  | .error _ => []

end Session

structure Batch where
  page : String
  entries : List String
  deriving DecidableEq, Repr

def Batch.taken (b : Batch) : List Logged := b.entries.map fun entry => { page := b.page, entry }

structure Observed where
  world : World
  logged : List Logged
  batches : List Batch
  deriving DecidableEq, Repr

namespace Observed

def start (w : World) : Observed := { world := w, logged := [], batches := [] }

def taken (o : Observed) : List Logged := o.batches.flatMap Batch.taken

variable {α : Type}

def silently (operation : Operation α) : EStateM HostError Observed α := fun o =>
  match operation o.world with
  | .ok value world => .ok value { o with world }
  | .error e world => .error e { o with world }

def noting (logs : World → List Logged) (operation : Operation α) :
    EStateM HostError Observed α := fun o =>
  silently operation { o with logged := o.logged ++ logs o.world }

def drainConsole : EStateM HostError Observed (List String) := fun o =>
  silently World.drainConsole { o with
    batches := o.batches ++ [{ page := o.world.session.url, entries := o.world.session.console }] }

instance : Host Observed Handle where
  now o := Clock.now o.world
  sleep time o := { o with world := Clock.sleep time o.world }
  emit event o := { o with world := Clock.emit event o.world }
  goto url := noting (fun w => w.session.loadLogs url) (Host.goto url)
  currentUrl := silently Host.currentUrl
  outerHtml := silently Host.outerHtml
  findAll l := silently (Host.findAll l)
  findWithin h l := silently (Host.findWithin h l)
  waitLocated l timeout := silently (Host.waitLocated l timeout)
  waitVisible h timeout := silently (Host.waitVisible h timeout)
  isDisplayed h := silently (Host.isDisplayed h)
  tagName h := silently (Host.tagName h)
  attr h name := silently (Host.attr h name)
  text h := silently (Host.text h)
  isSelected h := silently (Host.isSelected h)
  click h := noting (fun w => w.session.clickLogs w.now h) (Host.click h)
  sendKeys h keys := silently (Host.sendKeys h keys)
  clear h := silently (Host.clear h)
  drainConsole := drainConsole
  enterFrame l := silently (Host.enterFrame l)
  leaveFrames := silently Host.leaveFrames
  acceptDialog timeout := silently (Host.acceptDialog timeout)
  dismissDialog timeout := silently (Host.dismissDialog timeout)

structure Follows (w : World) (o : Observed) : Prop where
  world : o.world = w
  balanced : o.logged.map Logged.entry = o.batches.flatMap Batch.entries ++ w.session.console

end Observed

namespace Session

theorem pickConsole (s : Session) (index : Nat) (n : Node) :
    (s.pick index n).console = s.console := by
  unfold pick
  repeat' split
  all_goals rfl

theorem loadConsole {s after : Session} {now : Nat} {url : String}
    (loaded : s.load now url = .ok after) :
    after.console = s.console ++ (s.loadLogs url).map Logged.entry := by
  unfold load at loaded
  unfold loadLogs
  cases found : s.pages.get? url with
  | none => simp [found] at loaded
  | some page =>
    simp only [found, Except.ok.injEq] at loaded
    subst after
    simp [Function.comp_def]

theorem applyConsole {s after : Session} {now : Nat} {effect : Effect}
    (applied : s.apply now effect = .ok after) :
    after.console = s.console ++ (s.effectLogs effect).map Logged.entry := by
  cases effect with
  | navigate url => exact loadConsole applied
  | log entry => cases applied; rfl
  | alert text => cases applied; exact (List.append_nil _).symm
  | reveal id => cases applied; exact (List.append_nil _).symm
  | setText id text => cases applied; exact (List.append_nil _).symm

theorem failedLoadLogs {s : Session} {now : Nat} {url : String} {e : HostError}
    (failed : s.load now url = .error e) : s.loadLogs url = [] := by
  unfold load at failed
  unfold loadLogs
  cases found : s.pages.get? url with
  | none => rfl
  | some page => simp [found] at failed

theorem failedEffectLogs {s : Session} {now : Nat} {effect : Effect} {e : HostError}
    (failed : s.apply now effect = .error e) : s.effectLogs effect = [] := by
  cases effect with
  | navigate url => exact failedLoadLogs failed
  | _ => cases failed

theorem applyAllConsole (s : Session) (now : Nat) (effects : List Effect) :
    (s.applyAll now effects).1.console =
      s.console ++ (s.effectsLogs now effects).map Logged.entry := by
  induction effects generalizing s with
  | nil => simp [applyAll, effectsLogs]
  | cons effect rest ih =>
    simp only [applyAll, effectsLogs]
    cases applied : s.apply now effect with
    | ok after => simp [ih after, applyConsole applied, List.append_assoc]
    | error e => simp [failedEffectLogs applied]

end Session

namespace Observed

variable {α : Type}

theorem silentlyFollows {operation : Operation α}
    (keeps : ∀ entries, Keeps (World.Pending entries) operation) :
    Alike Follows operation (silently operation) := by
  rintro _ o ⟨rfl, balanced⟩
  have kept := keepsResult.mp (keeps _) o.world rfl
  simp only [silently]
  cases outcome : operation o.world with
  | ok value w => exact .ok value ⟨rfl, by rw [outcome] at kept; rw [kept]; exact balanced⟩
  | error e w => exact .error e ⟨rfl, by rw [outcome] at kept; rw [kept]; exact balanced⟩

def Logs (logs : World → List Logged) (operation : Operation α) : Prop :=
  ∀ w, match operation w with
    | .ok _ after | .error _ after =>
      after.session.console = w.session.console ++ (logs w).map Logged.entry

theorem notingFollows {logs : World → List Logged} {operation : Operation α}
    (adds : Logs logs operation) : Alike Follows operation (noting logs operation) := by
  rintro _ o ⟨rfl, balanced⟩
  have added := adds o.world
  simp only [noting, silently]
  cases outcome : operation o.world with
  | ok value w =>
    rw [outcome] at added
    exact .ok value ⟨rfl, by simp [added, balanced, ← List.append_assoc]⟩
  | error e w =>
    rw [outcome] at added
    exact .error e ⟨rfl, by simp [added, balanced, ← List.append_assoc]⟩

theorem gotoLogs (url : String) : Logs (fun w => w.session.loadLogs url) (World.goto url) := by
  intro w
  unfold World.goto
  cases loaded : w.session.load w.now url with
  | ok after => exact Session.loadConsole loaded
  | error e => simp [Session.failedLoadLogs loaded]

theorem clickLogs (h : Handle) :
    Logs (fun w => w.session.clickLogs w.now h) (World.click h) := by
  intro w
  unfold World.click
  simp only [Session.clickLogs]
  cases w.session.node w.now h with
  | error e => simp
  | ok n =>
    have after := (w.session.pick h.index n).applyAllConsole w.now n.onClick
    rw [Session.pickConsole] at after
    dsimp only
    generalize (w.session.pick h.index n).applyAll w.now n.onClick = outcome at after ⊢
    obtain ⟨session, failed⟩ := outcome
    cases failed with
    | none => exact after
    | some e => exact after

theorem drainFollows : Alike Follows World.drainConsole drainConsole := by
  rintro _ o ⟨rfl, balanced⟩
  exact .ok _ ⟨rfl, by simp [balanced]⟩

theorem follows : Browses Follows where
  now related := by rw [← related.world]; rfl
  sleep time _ _ related := ⟨congrArg (Clock.sleep time) related.world, related.balanced⟩
  emit _ _ _ related := ⟨related.world, related.balanced⟩
  currentUrl := silentlyFollows fun _ => World.lookKeeps _
  outerHtml := silentlyFollows fun _ => World.lookKeeps _
  findAll l := silentlyFollows fun _ => World.findAllKeeps l
  findWithin h l := silentlyFollows fun _ => World.findWithinKeeps h l
  isDisplayed h := silentlyFollows fun _ => World.readKeeps h _
  tagName h := silentlyFollows fun _ => World.readKeeps h _
  attr h _ := silentlyFollows fun _ => World.readKeeps h _
  text h := silentlyFollows fun _ => World.readKeeps h _
  isSelected h := silentlyFollows fun _ => World.readKeeps h _
  waitLocated l time := silentlyFollows fun _ => World.waitLocatedKeeps World.pendingTimeless l time
  waitVisible h time := silentlyFollows fun _ => World.waitVisibleKeeps World.pendingTimeless h time
  click h := notingFollows (clickLogs h)
  sendKeys h keys := silentlyFollows fun _ => World.editPending h _
  clear h := silentlyFollows fun _ => World.editPending h _
  enterFrame l := silentlyFollows fun _ => World.enterFramePending l
  leaveFrames := silentlyFollows fun _ => World.leaveFramesPending
  acceptDialog time := silentlyFollows fun _ => World.answerPending true time
  dismissDialog time := silentlyFollows fun _ => World.answerPending false time
  goto url := notingFollows (gotoLogs url)
  drainConsole := drainFollows

theorem silentlyKeeps {J : Observed → Prop} {operation : Operation α}
    (keeps : ∀ o : Observed, Keeps (fun world => J { o with world }) operation) :
    Keeps J (silently operation) := by
  refine keepsResult.mpr fun o held => ?_
  have kept := keepsResult.mp (keeps o) o.world held
  unfold silently
  generalize operation o.world = outcome at kept ⊢
  cases outcome with
  | ok value w => exact kept
  | error e w => exact kept

theorem looks {J : Observed → Prop}
    (timeless : ∀ o : Observed, World.Timeless fun world => J { o with world }) :
    Looks (Staying J) where
  now related := by rw [related.1]
  sleep time s _ related := ⟨congrArg _ related.1, timeless s s.world time related.2⟩
  emit _ _ _ related := ⟨congrArg _ related.1, related.2⟩
  currentUrl := silentlyKeeps fun _ => World.lookKeeps _
  outerHtml := silentlyKeeps fun _ => World.lookKeeps _
  findAll l := silentlyKeeps fun _ => World.findAllKeeps l
  findWithin h l := silentlyKeeps fun _ => World.findWithinKeeps h l
  isDisplayed h := silentlyKeeps fun _ => World.readKeeps h _
  tagName h := silentlyKeeps fun _ => World.readKeeps h _
  attr h _ := silentlyKeeps fun _ => World.readKeeps h _
  text h := silentlyKeeps fun _ => World.readKeeps h _
  isSelected h := silentlyKeeps fun _ => World.readKeeps h _

def OfBatches (P : List Batch → Prop) (o : Observed) : Prop := P o.batches

variable {P : List Batch → Prop}

theorem silentlyKeepsBatches (operation : Operation α) :
    Keeps (OfBatches P) (silently operation) := by
  refine keepsResult.mpr fun o held => ?_
  unfold silently
  cases operation o.world with
  | ok value w => exact held
  | error e w => exact held

theorem notingKeepsBatches (logs : World → List Logged) (operation : Operation α) :
    Keeps (OfBatches P) (noting logs operation) :=
  keepsResult.mpr fun _ held => keepsResult.mp (silentlyKeepsBatches operation) _ held

theorem actsOnBatches : Acts (Staying (OfBatches P)) where
  toLooks := looks fun _ _ _ held => held
  waitLocated _ _ := silentlyKeepsBatches _
  waitVisible _ _ := silentlyKeepsBatches _
  click _ := notingKeepsBatches _ _
  sendKeys _ _ := silentlyKeepsBatches _
  clear _ := silentlyKeepsBatches _
  enterFrame _ := silentlyKeepsBatches _
  leaveFrames := silentlyKeepsBatches _
  acceptDialog _ := silentlyKeepsBatches _
  dismissDialog _ := silentlyKeepsBatches _

end Observed
end PageCheck.Browser
