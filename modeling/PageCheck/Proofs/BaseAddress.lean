import PageCheck.Browser.World
import PageCheck.Proofs.TextSearch
import PageCheck.Run

/-!
Relative addresses and the base. An address with a scheme stays what it is, and any other one is put
behind the base with one slash between them, as long as it holds no other address further on
(`basedUnlessEmbedding`).
-/
namespace PageCheck

def isSchemeCharacter (c : Char) : Bool := c.isAlphanum || c = '+' || c = '-' || c = '.'

def isScheme : List Char → Bool
  | [] => false
  | c :: rest => c.isAlpha && rest.all isSchemeCharacter

def HasScheme (url : String) : Prop :=
  ∃ scheme rest, isScheme scheme = true ∧ url.toList = scheme ++ CheckSettings.schemeMark ++ rest

def HoldsMark (url : String) : Prop := CheckSettings.schemeMark <:+: url.toList

theorem HasScheme.holdsMark {url : String} : HasScheme url → HoldsMark url := by
  rintro ⟨scheme, rest, -, whole⟩
  exact ⟨scheme, rest, whole.symm⟩

inductive Joined (base url address : String) : Prop where
  | join {front back : List Char} {last first : Nat}
      (atBase : base.toList = front ++ List.replicate last '/') (ends : front.getLast? ≠ some '/')
      (atUrl : url.toList = List.replicate first '/' ++ back) (begins : back.head? ≠ some '/')
      (whole : address.toList = front ++ '/' :: back)

theorem slashesDropped {back : List Char} (first : Nat) (begins : back.head? ≠ some '/') :
    (List.replicate first '/' ++ back).dropWhile (· = '/') = back := by
  induction first with
  | zero =>
    cases back with
    | nil => rfl
    | cons c back =>
      refine List.dropWhile_cons_of_neg ?_
      simpa using begins
  | succ first ih => simpa [List.replicate_succ] using ih

theorem slashesInFront (cs : List Char) : ∃ first, cs =
    List.replicate first '/' ++ cs.dropWhile (· = '/') ∧
      (cs.dropWhile (· = '/')).head? ≠ some '/' := by
  refine ⟨(cs.takeWhile (· = '/')).length, ?_, fun slash => ?_⟩
  · have slashes : cs.takeWhile (· = '/') = List.replicate (cs.takeWhile (· = '/')).length '/' :=
      List.eq_replicate_of_mem fun c member => by
        simpa using List.all_eq_true.mp List.all_takeWhile c member
    rw [← slashes, List.takeWhile_append_dropWhile]
  · have first := List.head?_dropWhile_not (fun c => decide (c = '/')) cs
    rw [slash] at first
    cases first

variable {base url address : String}

theorem joinedIff : Joined base url address ↔
    address.toList = Text.dropEndWhile (· = '/') base.toList ++
      '/' :: url.toList.dropWhile (· = '/') := by
  constructor
  · rintro ⟨atBase, ends, atUrl, begins, whole⟩
    rw [whole, atBase, atUrl, slashesDropped _ begins, Text.dropEndWhile, List.reverse_append,
      List.reverse_replicate, slashesDropped _ (by rwa [List.head?_reverse]), List.reverse_reverse]
  · intro whole
    obtain ⟨last, atBase, ends⟩ := slashesInFront base.toList.reverse
    obtain ⟨first, atUrl, begins⟩ := slashesInFront url.toList
    have parts : base.toList =
        Text.dropEndWhile (· = '/') base.toList ++ List.replicate last '/' := by
      rw [Text.dropEndWhile, ← List.reverse_replicate, ← List.reverse_append, ← atBase,
        List.reverse_reverse]
    exact .join parts (by rwa [Text.dropEndWhile, List.getLast?_reverse]) atUrl begins whole

theorem joinedSelf : Joined base url url ↔
    (∀ c ∈ base.toList, c = '/') ∧ ∃ back, url.toList = '/' :: back ∧ back.head? ≠ some '/' := by
  constructor
  · rintro ⟨atBase, ends, atUrl, begins, whole⟩
    next front back last first =>
    have slashes : List.replicate first '/' = front ++ ['/'] := by
      have behind : List.replicate first '/' ++ back = front ++ ['/'] ++ back := by
        rw [← atUrl, whole, List.append_assoc, List.singleton_append]
      exact List.append_cancel_right behind
    obtain rfl | ⟨init, c, rfl⟩ := List.eq_nil_or_concat' front
    · exact ⟨fun c member => List.eq_of_mem_replicate (atBase ▸ member), back, whole, begins⟩
    · have member : c ∈ List.replicate first '/' := by simp [slashes]
      rw [List.getLast?_concat, List.eq_of_mem_replicate member] at ends
      exact (ends rfl).elim
  · rintro ⟨slashes, back, whole, begins⟩
    have atBase : base.toList = [] ++ List.replicate base.toList.length '/' :=
      List.eq_replicate_of_mem slashes
    have atUrl : url.toList = List.replicate 1 '/' ++ back := whole
    exact .join atBase nofun atUrl begins whole

namespace CheckSettings

def withBase (s : CheckSettings) (base : String) : CheckSettings := { s with base := some base }

theorem resolvesMarked (s : CheckSettings) (base : String) (marked : HoldsMark url) :
    (s.withBase base).resolveUrl url = url :=
  if_pos (Text.occursIffInfix.mpr marked)

theorem resolvesUnmarked (s : CheckSettings) (base : String) (unmarked : ¬ HoldsMark url) :
    Joined base url ((s.withBase base).resolveUrl url) := by
  have joint : (s.withBase base).resolveUrl url = _ :=
    if_neg fun found => unmarked (Text.occursIffInfix.mp found)
  rw [joinedIff, joint, String.toList_ofList]

end CheckSettings

theorem visitLoads (settings : CheckSettings) (url : String) (w : Browser.World) :
    Run.visit settings (.value url) w =
        .error (.host (.command ("no page at " ++ settings.resolveUrl url))) w ∨
      ∃ after, Run.visit settings (.value url) w = .ok () after ∧
        after.session.url = settings.resolveUrl url ∧
        after.session.visits = w.session.visits ++ [settings.resolveUrl url] := by
  have asks : Run.visit settings (.value url) w =
    Check.ask (Browser.World.goto (settings.resolveUrl url)) w := rfl
  rw [asks, Check.ask, Browser.World.goto, Browser.Session.load]
  cases w.session.pages.get? (settings.resolveUrl url) with
  | none => exact .inl rfl
  | some page => exact .inr ⟨_, rfl, rfl, rfl⟩

/-- A step goes to an address with a scheme itself. It goes to any other address behind the base,
except where the mark of a scheme stands further on: then it goes to the address as it is, which is
the same only when there is no base but slashes and one slash to begin with. -/
theorem basedUnlessEmbedding (s : CheckSettings) (base url : String) :
    let address := (s.withBase base).resolveUrl url
    (HasScheme url → address = url) ∧
    (¬ HasScheme url → (Joined base url address ↔
      ¬ HoldsMark url ∨ (∀ c ∈ base.toList, c = '/') ∧
        ∃ back, url.toList = '/' :: back ∧ back.head? ≠ some '/')) ∧
    ∀ w : Browser.World,
      Run.visit (s.withBase base) (.value url) w =
          .error (.host (.command ("no page at " ++ address))) w ∨
        ∃ after, Run.visit (s.withBase base) (.value url) w = .ok () after ∧
          after.session.url = address ∧ after.session.visits = w.session.visits ++ [address] := by
  refine ⟨fun scheme => s.resolvesMarked base scheme.holdsMark, fun schemeless => ?_, ?_⟩
  · by_cases marked : HoldsMark url
    · rw [s.resolvesMarked base marked, joinedSelf]
      exact (or_iff_right (not_not_intro marked)).symm
    · exact iff_of_true (s.resolvesUnmarked base marked) (.inl marked)
  · exact visitLoads (s.withBase base) url

theorem basedBelowTrailingSlashes :
    HasScheme "ftp://c" ∧
    (CheckSettings.default.withBase "http://b//").resolveUrl "ftp://c" = "ftp://c" ∧
    ¬ HasScheme "//login" ∧ ¬ HoldsMark "//login" ∧
    Joined "http://b//" "//login"
      ((CheckSettings.default.withBase "http://b//").resolveUrl "//login") ∧
    (CheckSettings.default.withBase "http://b//").resolveUrl "//login" = "http://b/login" := by
  have scheme : HasScheme "ftp://c" := ⟨['f', 't', 'p'], ['c'], rfl, rfl⟩
  have unmarked : ¬ HoldsMark "//login" := by
    unfold HoldsMark
    decide
  have schemeless : ¬ HasScheme "//login" := fun scheme => unmarked scheme.holdsMark
  exact ⟨scheme, (basedUnlessEmbedding .default "http://b//" "ftp://c").1 scheme, schemeless,
    unmarked, ((basedUnlessEmbedding .default "http://b//" "//login").2.1 schemeless).mpr
      (.inl unmarked), rfl⟩

theorem embeddedUnbased :
    ¬ HasScheme "/login?next=http://other/" ∧
    (CheckSettings.default.withBase "http://b/").resolveUrl "/login?next=http://other/" =
      "/login?next=http://other/" ∧
    ¬ Joined "http://b/" "/login?next=http://other/"
      ((CheckSettings.default.withBase "http://b/").resolveUrl "/login?next=http://other/") := by
  have kept : (CheckSettings.default.withBase "http://b/").resolveUrl "/login?next=http://other/" =
    "/login?next=http://other/" := by decide
  refine ⟨?_, kept, ?_⟩
  · rintro ⟨_ | ⟨c, scheme⟩, rest, valid, whole⟩
    · cases valid
    · obtain rfl : '/' = c := (List.cons.inj whole).1
      cases valid
  · rw [kept, joinedSelf]
    rintro ⟨slashes, -⟩
    have letter : 'h' = '/' := slashes 'h' (by decide)
    cases letter

end PageCheck
