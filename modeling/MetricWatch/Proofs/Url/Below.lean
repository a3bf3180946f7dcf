import MetricWatch.Url.Basic
import Mathlib.Tactic.Lemma
import Mathlib.Data.List.TakeWhile

/-!
# Addresses below a base

An address that is a base, a slash and a tail. Whatever the scheme, the tail decides nothing but
the end of the path: the segments of the base are walked first and those of the tail after them.
The main statement is `Url.parse?_below`.
-/

namespace MetricWatch

/-! ### Parts -/

namespace Text

variable {isSeparator : Char → Bool}

lemma cut_eq_some {cs front back : List Char} (isCut : cut isSeparator cs = (front, some back)) :
    ∃ c, isSeparator c = true ∧ cs = front ++ c :: back ∧ ∀ d ∈ front, isSeparator d = false := by
  have whole := List.takeWhile_append_dropWhile (p := fun c => !isSeparator c) (l := cs)
  have stop := List.head?_dropWhile_not (fun c => !isSeparator c) cs
  unfold cut at isCut
  split at isCut
  · cases isCut
  · rename_i c rest found
    rw [found] at whole stop
    cases isCut
    refine ⟨c, by simpa using stop, whole.symm, fun d mem => ?_⟩
    simpa using List.mem_takeWhile_imp mem

lemma cut_append_cons {c : Char} {front : List Char} (hit : isSeparator c = true)
    (before : ∀ d ∈ front, isSeparator d = false) (back : List Char) :
    cut isSeparator (front ++ c :: back) = (front, some back) := by
  have goes (d : Char) (mem : d ∈ front) : (fun c => !isSeparator c) d = true := by
    simp [before d mem]
  simp only [cut, List.dropWhile_append_of_pos goes, List.takeWhile_append_of_pos goes]
  simp [hit]

lemma cut_append {cs front back : List Char} (isCut : cut isSeparator cs = (front, some back))
    (more : List Char) : cut isSeparator (cs ++ more) = (front, some (back ++ more)) := by
  obtain ⟨c, hit, rfl, before⟩ := cut_eq_some isCut
  rw [List.append_assoc, List.cons_append, cut_append_cons hit before]

lemma cut_of_absent {cs : List Char} (absent : ∀ c ∈ cs, isSeparator c = false) :
    cut isSeparator cs = (cs, none) := by
  have all : cs.dropWhile (fun c => !isSeparator c) = [] := by
    simpa [List.dropWhile_eq_nil_iff] using absent
  simp [cut, all]

lemma absent_of_cut {cs : List Char} (noBack : (cut isSeparator cs).2 = none) :
    (cut isSeparator cs).1 = cs ∧ ∀ c ∈ cs, isSeparator c = false := by
  unfold cut at noBack ⊢
  split at noBack
  · rename_i all
    rw [List.dropWhile_eq_nil_iff] at all
    exact ⟨rfl, fun c mem => by simpa using all c mem⟩
  · cases noBack

lemma parts_append {c : Char} (isSeparator_c : isSeparator c = true) (front back : List Char) :
    parts isSeparator (front ++ c :: back) = parts isSeparator front ++ parts isSeparator back := by
  induction front with
  | nil => simp [parts, isSeparator_c]
  | cons d front ih =>
    obtain ⟨first, more, isParts⟩ := List.exists_cons_of_ne_nil (parts_ne_nil isSeparator front)
    by_cases isSeparator_d : isSeparator d = true
    · simp [parts, isSeparator_d, ih]
    · simp [parts, isSeparator_d, ih, isParts]

lemma parts_congr {isSeparator' : Char → Bool} {cs : List Char}
    (same : ∀ c ∈ cs, isSeparator c = isSeparator' c) :
    parts isSeparator cs = parts isSeparator' cs := by
  induction cs with
  | nil => rfl
  | cons c cs ih =>
    have rest : parts isSeparator cs = parts isSeparator' cs :=
      ih fun d mem => same d (List.mem_cons_of_mem _ mem)
    simp only [parts, same c List.mem_cons_self, rest]

lemma parts_of_absent {cs : List Char} (absent : ∀ c ∈ cs, isSeparator c = false) :
    parts isSeparator cs = [cs] := by
  induction cs with
  | nil => rfl
  | cons c cs ih =>
    have rest : parts isSeparator cs = [cs] :=
      ih fun d mem => absent d (List.mem_cons_of_mem _ mem)
    simp [parts, absent c List.mem_cons_self, rest]

end Text

namespace Url

/-! ### Walking on -/

/-- The segments after one that is not the last. -/
def enter (done : List String) (segment : List Char) : List String :=
  if isDoubleDot segment then done.drop 1
  else if isSingleDot segment then done
  else String.ofList (encodeSet inPathSet segment) :: done

lemma walk_append (done : List String) (segments : List (List Char)) {more : List (List Char)}
    (goesOn : more ≠ []) :
    walk done (segments ++ more) = walk (segments.foldl enter done) more := by
  induction segments generalizing done with
  | nil => rfl
  | cons segment segments ih =>
    have notLast : (segments ++ more).isEmpty = false := by simp [goesOn]
    simp only [List.cons_append, walk, notLast, List.foldl_cons, enter, ← ih]
    split
    · rfl
    · split <;> rfl

lemma walk_parts_append {isSep : Char → Bool} {c : Char} (isSep_c : isSep c = true)
    (front tail : List Char) :
    walk [] (Text.parts isSep (front ++ c :: tail))
      = walk ((Text.parts isSep front).foldl enter []) (Text.parts isSep tail) := by
  rw [Text.parts_append isSep_c, walk_append _ _ (Text.parts_ne_nil _ _)]

/-- A way of reading paths that walks a tail after what stands before it. -/
def Walks (isSep : Char → Bool) (read : List Char → Path) (front : List Char) : Prop :=
  ∃ done, ∀ tail, read (front ++ '/' :: tail)
    = .segments (walk done (Text.parts isSep tail)).reverse

lemma isSeparator_slash (isSpecial : Bool) : isSeparator isSpecial '/' = true := rfl

lemma walks_specialPath {front : List Char}
    (starts : ∀ c ∈ front.head?, isSeparator true c = true) :
    Walks (isSeparator true) specialPath front := by
  cases front with
  | nil => exact ⟨[], fun tail => rfl⟩
  | cons c front =>
    refine ⟨(Text.parts (isSeparator true) front).foldl enter [], fun tail => ?_⟩
    simp only [List.cons_append, specialPath, if_pos (starts c rfl), segmentsOf,
      walk_parts_append (isSeparator_slash true)]

lemma walks_otherPath (front : List Char) : Walks (isSeparator false) otherPath front := by
  cases front with
  | nil => exact ⟨[], fun tail => rfl⟩
  | cons c front =>
    refine ⟨(Text.parts (isSeparator false) front).foldl enter [], fun tail => ?_⟩
    simp only [List.cons_append, otherPath, segmentsOf, walk_parts_append (isSeparator_slash false)]

/-! ### Up to the path -/

section

variable {p : Char → Bool} (stops : p '/' = false) (front tail : List Char)

include stops

lemma takeWhile_below : (front ++ '/' :: tail).takeWhile p = front.takeWhile p := by
  induction front with
  | nil => simp [stops]
  | cons c front ih => simp [List.takeWhile_cons, ih]

lemma dropWhile_below : (front ++ '/' :: tail).dropWhile p = front.dropWhile p ++ '/' :: tail := by
  induction front with
  | nil => simp [stops]
  | cons c front ih =>
    simp only [List.cons_append, List.dropWhile_cons, ih]
    split <;> rfl

lemma drop_below : (front ++ '/' :: tail).drop (front.takeWhile p).length
    = front.dropWhile p ++ '/' :: tail := by
  have whole := List.takeWhile_append_dropWhile (p := p) (l := front ++ '/' :: tail)
  rw [takeWhile_below stops, dropWhile_below stops] at whole
  rw [← whole, List.drop_left]

end

lemma of_head?_dropWhile {p : Char → Bool} {cs : List Char} :
    ∀ c ∈ (cs.dropWhile p).head?, p c = false := by
  intro c isHead
  have stop := List.head?_dropWhile_not p cs
  rw [isHead] at stop
  exact stop

/-- Reading an address leaves a URL, and with a tail the URL is the same but for its path. -/
def Extends (read : List Char → Option Url) (front : List Char) (isSep : Char → Bool)
    (root : Url) : Prop :=
  ∃ done, root.path = .segments (done.reverse ++ [""]) ∧ ∀ tail, read (front ++ '/' :: tail)
    = some { root with path := .segments (walk done (Text.parts isSep tail)).reverse }

lemma Extends.congr {read read' : List Char → Option Url} {front front' : List Char}
    {isSep : Char → Bool} {root : Url}
    (same : ∀ tail, read (front ++ '/' :: tail) = read' (front' ++ '/' :: tail)) :
    Extends read' front' isSep root → Extends read front isSep root :=
  fun ⟨done, isPath, extended⟩ => ⟨done, isPath, fun tail => (same tail).trans (extended tail)⟩

/-- Where the path is read by walking, an address extends. -/
lemma Extends.of_walks {read : List Char → Option Url} {front rest : List Char}
    {isSep : Char → Bool} {path : List Char → Path} {root : Url} (url : Path → Url)
    (walks : Walks isSep path rest) (set : ∀ a b, { url a with path := b } = url b)
    (same : ∀ tail, read (front ++ '/' :: tail) = some (url (path (rest ++ '/' :: tail))))
    (isRoot : read (front ++ ['/']) = some root) : Extends read front isSep root := by
  obtain ⟨done, walked⟩ := walks
  obtain rfl : url (path (rest ++ ['/'])) = root :=
    Option.some.inj ((same []).symm.trans isRoot)
  have isPath (a : Path) : (url a).path = a := by rw [← set a a]
  refine ⟨done, ?_, fun tail => ?_⟩
  · rw [isPath, walked []]
    simp [Text.parts, walk, isDoubleDot, isSingleDot, encodeSet]
  · rw [same, walked, set]

lemma extends_ofAuthority? {scheme : String} {front : List Char} {root : Url}
    (isRoot : ofAuthority? scheme (front ++ ['/']) = some root) :
    Extends (ofAuthority? scheme) front (isSeparator (isSpecialScheme scheme)) root := by
  let isPart : Char → Bool := fun c => !isSeparator (isSpecialScheme scheme) c
  have stops : isPart '/' = false := rfl
  have read (tail : List Char) : ofAuthority? scheme (front ++ '/' :: tail)
      = (authority? scheme (front.takeWhile isPart)).bind fun a =>
        let rest := front.dropWhile isPart ++ '/' :: tail
        some ⟨scheme, a.username, a.password, some a.host, a.port,
          if isSpecialScheme scheme then specialPath rest else otherPath rest, none, none⟩ := by
    simp only [ofAuthority?, takeWhile_below stops, drop_below stops, isPart]
    rfl
  rw [read, Option.bind_eq_some_iff] at isRoot
  obtain ⟨a, isAuthority, isRoot⟩ := isRoot
  cases isSpecial : isSpecialScheme scheme with
  | true =>
    have starts (c : Char) (head : c ∈ (front.dropWhile isPart).head?) :
        isSeparator true c = true := by
      simpa [isPart, isSpecial] using of_head?_dropWhile c head
    refine .of_walks
      (fun path => ⟨scheme, a.username, a.password, some a.host, a.port, path, none, none⟩)
      (walks_specialPath starts) (fun _ _ => rfl) (fun tail => ?_)
      (by rw [read, isAuthority]; exact isRoot)
    rw [read, isAuthority]
    simp [isSpecial]
  | false =>
    refine .of_walks
      (fun path => ⟨scheme, a.username, a.password, some a.host, a.port, path, none, none⟩)
      (walks_otherPath (front.dropWhile isPart)) (fun _ _ => rfl) (fun tail => ?_)
      (by rw [read, isAuthority]; exact isRoot)
    rw [read, isAuthority]
    simp [isSpecial]

/-- Nothing is no authority of a host. -/
lemma ofAuthority?_nil {scheme : String} {root : Url}
    (isRoot : ofAuthority? scheme [] = some root) :
    isSpecialScheme scheme = false ∧ root.hasHost = false := by
  simp only [ofAuthority?, authority?, userinfo, hostAndPort, Text.cut] at isRoot
  cases isSpecial : isSpecialScheme scheme with
  | true => simp [isSpecial] at isRoot
  | false =>
    simp [isSpecial] at isRoot
    exact ⟨rfl, by simp [← isRoot, hasHost]⟩

/-- A URL of a file on a host. -/
def fileOn (host : Host) (path : Path) : Url := ⟨"file", "", "", some host, none, path, none, none⟩

lemma ofFile?_eq (cs : List Char) : ofFile? cs
    = match cs with
      | a :: b :: rest =>
        let place := rest.takeWhile fun c => !isSeparator true c
        if isSeparator true a ∧ isSeparator true b then
          if isDrive place then some (fileOn .empty (specialPath rest))
          else if place.isEmpty then some (fileOn .empty (specialPath (rest.drop place.length)))
          else (Host.parse? true place).map fun host =>
            fileOn (if host = .name "localhost" then .empty else host)
              (specialPath (rest.drop place.length))
        else some (fileOn .empty (specialPath cs))
      | _ => some (fileOn .empty (specialPath cs)) := rfl

lemma hasHost_fileOn_empty (path : Path) : (fileOn .empty path).hasHost = false := by
  simp [fileOn, hasHost]

/-- Where a file's URL has a host, two separators stand before it. -/
lemma extends_ofFile? {front : List Char} {root : Url}
    (isRoot : ofFile? (front ++ ['/']) = some root) (hasHost : root.hasHost = true) :
    Extends ofFile? front (isSeparator true) root := by
  have noHost {path : Path} (isEmpty : some (fileOn .empty path) = some root) :
      Extends ofFile? front (isSeparator true) root := by
    cases isEmpty
    cases (hasHost_fileOn_empty path).symm.trans hasHost
  match front with
  | [] => exact noHost isRoot
  | [a] =>
    rw [List.singleton_append, ofFile?_eq] at isRoot
    by_cases separates : isSeparator true a = true
    · simp only [isSeparator_slash, separates] at isRoot
      exact noHost isRoot
    · simp only [separates] at isRoot
      exact noHost isRoot
  | a :: b :: rest =>
    let isPart : Char → Bool := fun c => !isSeparator true c
    have stops : isPart '/' = false := rfl
    have read (tail : List Char) : ofFile? (a :: b :: rest ++ '/' :: tail)
        = if isSeparator true a ∧ isSeparator true b then
            if isDrive (rest.takeWhile isPart) then
              some (fileOn .empty (specialPath (rest ++ '/' :: tail)))
            else if (rest.takeWhile isPart).isEmpty then
              some (fileOn .empty (specialPath (rest.dropWhile isPart ++ '/' :: tail)))
            else (Host.parse? true (rest.takeWhile isPart)).map fun host =>
              fileOn (if host = .name "localhost" then .empty else host)
                (specialPath (rest.dropWhile isPart ++ '/' :: tail))
          else some (fileOn .empty (specialPath (a :: b :: rest ++ '/' :: tail))) := by
      rw [List.cons_append, List.cons_append, ofFile?_eq]
      simp only [takeWhile_below stops, drop_below stops, isPart]
    by_cases separates : isSeparator true a ∧ isSeparator true b
    · by_cases drive : isDrive (rest.takeWhile isPart) = true
      · rw [read, if_pos separates, if_pos drive] at isRoot
        exact noHost isRoot
      · by_cases noPlace : (rest.takeWhile isPart).isEmpty = true
        · rw [read, if_pos separates, if_neg drive, if_pos noPlace] at isRoot
          exact noHost isRoot
        · simp only [if_pos separates, if_neg drive, if_neg noPlace] at read
          have starts (c : Char) (head : c ∈ (rest.dropWhile isPart).head?) :
              isSeparator true c = true := by
            simpa [isPart] using of_head?_dropWhile c head
          cases isHost : Host.parse? true (rest.takeWhile isPart) with
          | none =>
            rw [read, isHost] at isRoot
            cases isRoot
          | some host =>
            refine .of_walks (fileOn (if host = .name "localhost" then .empty else host))
              (walks_specialPath starts) (fun _ _ => rfl) (fun tail => ?_) isRoot
            rw [read, isHost]
            rfl
    · rw [read, if_neg separates] at isRoot
      exact noHost isRoot

lemma ofScheme?_other {scheme : String} (isFile : ¬ scheme = "file")
    (isSpecial : isSpecialScheme scheme = false) (cs : List Char) :
    ofScheme? scheme cs
      = match cs with
        | '/' :: '/' :: rest => ofAuthority? scheme rest
        | '/' :: rest =>
          some ⟨scheme, "", "", none, none, segmentsOf (isSeparator false) rest, none, none⟩
        | _ => some ⟨scheme, "", "", none, none,
            .plain (String.ofList (encodeSet isControl cs)), none, none⟩ := by
  unfold ofScheme?
  exact (if_neg isFile).trans (if_neg (by simp [isSpecial]))

lemma extends_ofScheme? {scheme : String} {front : List Char} {root : Url}
    (isRoot : ofScheme? scheme (front ++ ['/']) = some root) (hasHost : root.hasHost = true) :
    Extends (ofScheme? scheme) front (isSeparator (isSpecialScheme scheme)) root := by
  by_cases isFile : scheme = "file"
  · subst isFile
    have read : ofScheme? "file" = ofFile? := by
      funext cs
      simp only [ofScheme?, if_true]
    rw [read] at isRoot ⊢
    exact extends_ofFile? isRoot hasHost
  cases isSpecial : isSpecialScheme scheme with
  | true =>
    have read (cs : List Char) :
        ofScheme? scheme cs = ofAuthority? scheme (cs.dropWhile (isSeparator true)) := by
      simp only [ofScheme?, if_neg isFile, if_pos isSpecial]
    by_cases onlySlashes : front.dropWhile (isSeparator true) = []
    · rw [read, List.dropWhile_append, onlySlashes] at isRoot
      cases isSpecial.symm.trans (ofAuthority?_nil isRoot).1
    · have same (tail : List Char) : ofScheme? scheme (front ++ '/' :: tail)
          = ofAuthority? scheme (front.dropWhile (isSeparator true) ++ '/' :: tail) := by
        rw [read, List.dropWhile_append, if_neg (by simpa using onlySlashes)]
      rw [same] at isRoot
      have extended := extends_ofAuthority? isRoot
      rw [isSpecial] at extended
      exact .congr same extended
  | false =>
    have read := ofScheme?_other isFile isSpecial
    rw [read] at isRoot
    split at isRoot
    · rename_i rest isFront
      cases front with
      | nil => cases isFront
      | cons c front =>
        cases front with
        | nil =>
          cases isFront
          cases (ofAuthority?_nil isRoot).2.symm.trans hasHost
        | cons d front =>
          cases isFront
          have extended := extends_ofAuthority? isRoot
          rw [isSpecial] at extended
          exact .congr (fun tail => read _) extended
    · cases isRoot
      cases hasHost
    · cases isRoot
      cases hasHost

/-! ### The whole address -/

/-- Whether a character of a tail is of its path in every scheme, and the slash is all that
separates there. -/
def isOfPath (c : Char) : Bool := !isOuter c && !(['?', '#', '\\'].contains c)

lemma dropWhile_visible {cs : List Char} (visible : ∀ c ∈ cs, isOuter c = false) :
    cs.dropWhile isOuter = cs := by
  cases cs with
  | nil => rfl
  | cons c cs => simp [visible c List.mem_cons_self]

lemma clean_append (base : List Char) {more : List Char} (isMore : more ≠ [])
    (visible : ∀ c ∈ more, isOuter c = false) :
    clean (base ++ more)
      = (base.dropWhile isOuter).filter (fun c => !(c = '\t' || c = '\n' || c = '\r')) ++ more := by
  have front : (base ++ more).dropWhile isOuter = base.dropWhile isOuter ++ more := by
    rw [List.dropWhile_append, dropWhile_visible visible]
    split <;> simp_all
  have back (cs : List Char) :
      ((cs ++ more).reverse.dropWhile isOuter).reverse = cs ++ more := by
    have last : more.reverse.dropWhile isOuter = more.reverse :=
      dropWhile_visible fun c mem => visible c (List.mem_reverse.mp mem)
    rw [List.reverse_append, List.dropWhile_append, last, if_neg (by simpa using isMore)]
    simp
  have kept : more.filter (fun c => !(c = '\t' || c = '\n' || c = '\r')) = more := by
    refine List.filter_eq_self.mpr fun c mem => ?_
    have outer : ['\t', '\n', '\r'].all isOuter = true := by decide
    have others (d : Char) (isMark : d ∈ ['\t', '\n', '\r']) : c ≠ d := by
      rintro rfl
      cases (List.all_eq_true.mp outer c isMark).symm.trans (visible c mem)
    simp [others]
  rw [clean, front, back, List.filter_append, kept]

lemma scheme?_append {cs rest : List Char} {scheme : String}
    (isScheme : scheme? cs = some (scheme, rest)) (more : List Char) :
    scheme? (cs ++ more) = some (scheme, rest ++ more) := by
  unfold scheme? at isScheme
  split at isScheme
  · rename_i c name back isCut
    rw [scheme?, Text.cut_append isCut more]
    split at isScheme
    · cases isScheme
      exact if_pos ‹_›
    · cases isScheme
  · cases isScheme

/-- The colon after a scheme is not the last character of an address that ends in a slash. -/
lemma scheme?_slash {cs rest : List Char} {scheme : String}
    (isScheme : scheme? (cs ++ ['/']) = some (scheme, rest)) : ∃ front, rest = front ++ ['/'] := by
  have colon : ∃ name, cs ++ ['/'] = name ++ ':' :: rest := by
    unfold scheme? at isScheme
    split at isScheme
    · rename_i c name back isCut
      obtain ⟨d, isColon, split_, -⟩ := Text.cut_eq_some isCut
      split at isScheme
      · cases isScheme
        exact ⟨c :: name, by rw [split_, of_decide_eq_true isColon]⟩
      · cases isScheme
    · cases isScheme
  obtain ⟨name, whole⟩ := colon
  rcases List.eq_nil_or_concat rest with rfl | ⟨front, last, isRest⟩
  · cases (List.append_inj' whole rfl).2
  · have whole' : cs ++ ['/'] = (name ++ ':' :: front) ++ [last] := by
      simpa [isRest] using whole
    cases (List.append_inj' whole' rfl).2
    exact ⟨front, isRest.trans List.concat_eq_append⟩

/-- Text that begins neither a query nor a fragment. -/
def Plain (cs : List Char) : Prop := ∀ c ∈ cs, c ≠ '?' ∧ c ≠ '#'

lemma parse?_of_plain {s scheme : String} {rest : List Char}
    (isScheme : scheme? (clean s.toList) = some (scheme, rest)) (plain : Plain rest) {u : Url}
    (isUrl : ofScheme? scheme rest = some u) :
    parse? s = some { u with query := none, fragment := none } := by
  have noHash : Text.cut (· = '#') rest = (rest, none) :=
    Text.cut_of_absent fun c mem => decide_eq_false (plain c mem).2
  have noMark : Text.cut (· = '?') rest = (rest, none) :=
    Text.cut_of_absent fun c mem => decide_eq_false (plain c mem).1
  simp only [parse?, isScheme, Option.bind_eq_bind, Option.bind_some, noHash, noMark, isUrl,
    Option.map_none]

lemma plain_of_parse? {s : String} {root : Url} (isRoot : parse? s = some root)
    (noQuery : root.query = none) (noFragment : root.fragment = none) :
    ∃ scheme rest u, scheme? (clean s.toList) = some (scheme, rest) ∧ Plain rest ∧
      ofScheme? scheme rest = some u ∧ root = { u with query := none, fragment := none } := by
  simp only [parse?, Option.bind_eq_bind, Option.bind_eq_some_iff, Prod.exists] at isRoot
  obtain ⟨scheme, rest, isScheme, u, isUrl, isRoot⟩ := isRoot
  cases isRoot
  dsimp only at noQuery noFragment
  obtain ⟨whole, noHash⟩ := Text.absent_of_cut (Option.map_eq_none_iff.mp noFragment)
  obtain ⟨plain, noMark⟩ := Text.absent_of_cut (Option.map_eq_none_iff.mp noQuery)
  rw [plain, whole] at isUrl
  rw [whole] at noMark
  refine ⟨scheme, rest, u, isScheme, fun c mem => ⟨?_, ?_⟩, isUrl, by rw [noQuery, noFragment]⟩
  · exact of_decide_eq_false (noMark c mem)
  · exact of_decide_eq_false (noHash c mem)

/-- Whatever the tail, the URL below a base is that of the base but for its path, in which the
tail is walked after the segments of the base. -/
theorem parse?_below {base : String} {root : Url} (isRoot : parse? (base ++ "/") = some root)
    (hasHost : root.hasHost = true) (noQuery : root.query = none)
    (noFragment : root.fragment = none) :
    ∃ done, root.path = .segments (done.reverse ++ [""]) ∧
      ∀ tail : String, (∀ c ∈ tail.toList, isOfPath c = true) →
        parse? (base ++ "/" ++ tail) = some { root with
          path := .segments (walk done (Text.parts (· = '/') tail.toList)).reverse } := by
  obtain ⟨scheme, rest, u, isScheme, plain, isUrl, rfl⟩ :=
    plain_of_parse? isRoot noQuery noFragment
  have cleaned (tail : String) (visible : ∀ c ∈ tail.toList, isOuter c = false) :
      clean (base ++ "/" ++ tail).toList
        = (base.toList.dropWhile isOuter).filter (fun c => !(c = '\t' || c = '\n' || c = '\r'))
          ++ '/' :: tail.toList := by
    have slashed : (base ++ "/" ++ tail).toList = base.toList ++ '/' :: tail.toList := by simp
    rw [slashed]
    exact clean_append _ (by simp) (by simpa using ⟨rfl, visible⟩)
  have cleanRoot := cleaned "" (by simp)
  rw [String.append_empty, String.toList_empty] at cleanRoot
  rw [cleanRoot] at isScheme
  obtain ⟨front, rfl⟩ := scheme?_slash isScheme
  obtain ⟨done, isPath, extended⟩ := extends_ofScheme? isUrl hasHost
  refine ⟨done, isPath, fun tail ofPath => ?_⟩
  have ofPath' (c : Char) (mem : c ∈ tail.toList) :
      isOuter c = false ∧ c ≠ '?' ∧ c ≠ '#' ∧ c ≠ '\\' := by
    simpa [isOfPath] using ofPath c mem
  have tailScheme : scheme? (clean (base ++ "/" ++ tail).toList)
      = some (scheme, front ++ '/' :: tail.toList) := by
    rw [cleaned tail fun c mem => (ofPath' c mem).1]
    simpa using scheme?_append isScheme tail.toList
  have tailPlain : Plain (front ++ '/' :: tail.toList) := by
    intro c mem
    rw [← List.singleton_append, ← List.append_assoc] at mem
    rcases List.mem_append.mp mem with inRoot | inTail
    · exact plain c inRoot
    · exact ⟨(ofPath' c inTail).2.1, (ofPath' c inTail).2.2.1⟩
  have segments : Text.parts (isSeparator (isSpecialScheme scheme)) tail.toList
      = Text.parts (· = '/') tail.toList :=
    Text.parts_congr fun c mem => by simp [isSeparator, (ofPath' c mem).2.2.2]
  rw [parse?_of_plain tailScheme tailPlain (extended tail.toList), segments]

end Url

end MetricWatch
