import PageCheck.Browser.Page
import PageCheck.Host

/-!
The in-memory browser and its clock. Pages are copied when they are loaded; a handle is good for
the load it was found in. Only waiting lets time pass.
-/
namespace PageCheck.Browser

structure Handle where
  generation : Nat
  index : Nat
  deriving DecidableEq, Repr, Inhabited

structure Session where
  pages : Keyed Page
  url : String
  html : String
  nodes : List Node
  generation : Nat
  loadedAt : Nat
  frame : Option String
  console : List String
  dialog : Option String
  answered : List (String × Bool)
  visits : List String
  deriving DecidableEq, Repr, Inhabited

structure World where
  session : Session
  now : Nat
  deriving DecidableEq, Repr, Inhabited

namespace Session

def start (pages : Keyed Page) : Session :=
  { pages, url := "", html := "", nodes := [], generation := 0, loadedAt := 0, frame := none,
    console := [], dialog := none, answered := [], visits := [] }

def load (now : Nat) (url : String) (s : Session) : Except HostError Session :=
  match s.pages.get? url with
  | none => .error (.command ("no page at " ++ url))
  | some page => .ok { s with
      url, html := page.html, nodes := page.nodes, generation := s.generation + 1,
      loadedAt := now, frame := none, console := s.console ++ page.logs,
      visits := s.visits ++ [url] }

def isPresent (s : Session) (now : Nat) (n : Node) : Bool := n.isPresent (now - s.loadedAt)

def handles (s : Session) (now : Nat) (p : Node → Bool) : List Handle :=
  (s.nodes.zipIdx.filter fun found => s.isPresent now found.1 && p found.1).map
    fun found => { generation := s.generation, index := found.2 }

def find (s : Session) (now : Nat) (l : Locator) : List Handle :=
  s.handles now fun n => n.isMatch l && n.frame = s.frame

def findWithin (s : Session) (now : Nat) (parent : String) (l : Locator) : List Handle :=
  s.handles now fun n => n.isMatch l && n.parent = some parent

def node (s : Session) (now : Nat) (h : Handle) : Except HostError Node :=
  match if h.generation = s.generation then s.nodes[h.index]? else none with
  | some n => if s.isPresent now n then .ok n else .error (stale h)
  | none => .error (stale h)
where
  stale (h : Handle) : HostError := .stale ("element " ++ toString h.index)

def change (p : Node → Bool) (f : Node → Node) (s : Session) : Session :=
  { s with nodes := s.nodes.map fun n => if p n then f n else n }

def changeAt (index : Nat) (f : Node → Node) (s : Session) : Session :=
  { s with nodes := s.nodes.modify index f }

def deselect (n : Node) : Node := { n with selected := false }

def choose (n : Node) : Node := { n with selected := true }

def flip (n : Node) : Node := { n with selected := !n.selected }

def allowsSeveral (s : Session) (option : Node) : Bool :=
  s.nodes.any fun n => n.tag = "select" && n.attr? "id" = option.parent &&
    (n.attr? "multiple").isSome

def pick (s : Session) (index : Nat) (n : Node) : Session :=
  if n.tag = "input" && n.attr? "type" = some "checkbox" then s.changeAt index flip
  else if n.tag = "input" && n.attr? "type" = some "radio" then
    (s.change (fun other => other.attr? "type" = some "radio" &&
      other.attr? "name" = n.attr? "name") deselect).changeAt index choose
  else if n.tag = "option" then
    if s.allowsSeveral n then s.changeAt index flip
    else (s.change (fun other => other.parent = n.parent) deselect).changeAt index choose
  else s

def apply (now : Nat) (s : Session) : Effect → Except HostError Session
  | .navigate url => s.load now url
  | .alert text => .ok { s with dialog := some text }
  | .reveal id =>
    .ok (s.change (fun n => n.attr? "id" = some id) fun n => { n with hidden := false })
  | .setText id text => .ok (s.change (fun n => n.attr? "id" = some id) fun n => { n with text })
  | .log entry => .ok { s with console := s.console ++ [entry] }

def applyAll (now : Nat) (s : Session) : List Effect → Session × Option HostError
  | [] => (s, none)
  | effect :: rest =>
    match s.apply now effect with
    | .ok s => applyAll now s rest
    | .error e => (s, some e)

end Session

abbrev Operation (α : Type) := EStateM HostError World α

namespace World

def look {α : Type} (view : Session → Nat → α) : Operation α := fun w =>
  .ok (view w.session w.now) w

def lookAt {α : Type} (view : Session → Nat → Except HostError α) : Operation α := fun w =>
  match view w.session w.now with
  | .ok value => .ok value w
  | .error e => .error e w

def update (f : Session → Session) : Operation Unit := fun w =>
  .ok () { w with session := f w.session }

def read {α : Type} (h : Handle) (view : Node → α) : Operation α :=
  lookAt fun s now => (s.node now h).map view

def pass (time : Nat) (w : World) : World := { w with now := w.now + time }

def tick : Nat := 5

/-- The looks after the first one that fit a timeout, the last at its end or after it. -/
def ticksIn (timeout : Nat) : Nat := (timeout + (tick - 1)) / tick

def await {α : Type} (question : Operation (Option α)) (expired : HostError) :
    (ticks : Nat) → Operation α
  | 0 => do
    match ← question with
    | some found => return found
    | none => throw expired
  | ticks + 1 => do
    match ← question with
    | some found => return found
    | none =>
      modify (pass tick)
      await question expired ticks

def goto (url : String) : Operation Unit := fun w =>
  match w.session.load w.now url with
  | .ok session => .ok () { w with session }
  | .error e => .error e w

def click (h : Handle) : Operation Unit := fun w =>
  match w.session.node w.now h with
  | .error e => .error e w
  | .ok n =>
    match (w.session.pick h.index n).applyAll w.now n.onClick with
    | (session, none) => .ok () { w with session }
    | (session, some e) => .error e { w with session }

def edit (h : Handle) (f : Node → Node) : Operation Unit := do
  let _ ← read h id
  update (Session.changeAt h.index f)

def findAll (l : Locator) : Operation (List Handle) := look fun s now => s.find now l

def findWithin (parent : Handle) (l : Locator) : Operation (List Handle) :=
  lookAt fun s now => (s.node now parent).map fun n =>
    s.findWithin now ((n.attr? "id").getD "") l

def waitLocated (l : Locator) (timeout : Nat) : Operation Handle :=
  await (List.head? <$> findAll l) (.timeout l.display) (ticksIn timeout)

def isDisplayed (h : Handle) : Operation Bool := read h fun n => !n.hidden

def waitVisible (h : Handle) (timeout : Nat) : Operation Handle :=
  await ((fun displayed => if displayed then some h else none) <$> isDisplayed h)
    (.timeout "element visibility") (ticksIn timeout)

def answerOpen (accepted : Bool) : Operation (Option Unit) := fun w =>
  match w.session.dialog with
  | none => .ok none w
  | some text => .ok (some ()) { w with session := { w.session with
      dialog := none, answered := w.session.answered ++ [(text, accepted)] } }

def answer (accepted : Bool) (timeout : Nat) : Operation Unit :=
  await (answerOpen accepted) (.timeout "native dialog") (ticksIn timeout)

def drainConsole : Operation (List String) := fun w =>
  .ok w.session.console { w with session := { w.session with console := [] } }

def enterFrame (l : Locator) : Operation Unit := do
  match ← findAll l with
  | [] => throw (.command ("no frame " ++ l.display))
  | first :: _ =>
    let id ← read first fun n => n.attr? "id"
    update fun s => { s with frame := id }

def leaveFrames : Operation Unit := update fun s => { s with frame := none }

def start (pages : Keyed Page) : World := { session := .start pages, now := 0 }

def probe (w : World) (l : Locator) : List String × Option String :=
  let found := w.session.nodes.filter fun n => n.isMatch l
  ((found.filter Node.selected).filterMap fun n => n.attr? "value",
   found.head?.bind fun n => n.attr? "value")

end World

instance : Host World Handle where
  now w := w.now
  sleep := World.pass
  emit _ w := w
  goto := World.goto
  currentUrl := World.look fun s _ => s.url
  outerHtml := World.look fun s _ => s.html
  findAll := World.findAll
  findWithin := World.findWithin
  waitLocated := World.waitLocated
  waitVisible := World.waitVisible
  isDisplayed := World.isDisplayed
  tagName h := World.read h Node.tag
  attr h name := World.read h fun n => n.attr? name
  text h := World.read h Node.displayedText
  isSelected h := World.read h Node.selected
  click := World.click
  sendKeys h keys := World.edit h fun n => n.typeText keys
  clear h := World.edit h fun n => n.setAttr "value" ""
  drainConsole := World.drainConsole
  enterFrame := World.enterFrame
  leaveFrames := World.leaveFrames
  acceptDialog := World.answer true
  dismissDialog := World.answer false

end PageCheck.Browser
