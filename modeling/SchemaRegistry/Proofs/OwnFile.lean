import SchemaRegistry.Disk.Basic
import SchemaRegistry.Proofs.LogRefinement

/-!
Every stream has a file of its own, which lies directly in the directory of the log.  Whatever is
asked about other streams, the file stays as it is.
-/

namespace SchemaRegistry

open LogRequest (serveAll)

namespace Text

theorem pieces_of_notMem {separator : Char} {cs : List Char} (h : separator ∉ cs) :
    pieces separator cs = [cs] := by
  induction cs with
  | nil => rfl
  | cons c cs ih =>
    rw [List.mem_cons, not_or] at h
    rw [pieces, if_neg (Ne.symm h.1), ih h.2]

theorem pieces_append (separator : Char) (cs ds : List Char) :
    pieces separator (cs ++ separator :: ds) = pieces separator cs ++ pieces separator ds := by
  induction cs with
  | nil => simp [pieces]
  | cons c cs ih =>
    rw [List.cons_append, pieces, pieces]
    split
    · rw [ih, List.cons_append]
    · rw [ih]
      cases hcs : pieces separator cs with
      | nil => exact absurd hcs (pieces_ne_nil separator cs)
      | cons piece rest => rfl

end Text

namespace Path

theorem parts_append (start rest : String) :
    parts (start ++ "/" ++ rest) = parts start ++ parts rest := by
  have hlist : (start ++ "/" ++ rest).toList = start.toList ++ '/' :: rest.toList := by simp
  rw [parts, Text.split, hlist, Text.pieces_append, List.map_append]
  rfl

/-- A name that a directory can have something under. -/
structure Normal (name : String) : Prop where
  slash : '/' ∉ name.toList
  empty : name ≠ ""
  dot : name ≠ "."
  dots : name ≠ ".."

variable {name : String}

theorem Normal.parts (h : Normal name) : parts name = [name] := by
  rw [Path.parts, Text.split, Text.pieces_of_notMem h.slash, List.map_singleton,
    String.ofList_toList]

theorem Normal.isRelative (h : Normal name) : isAbsolute name = false := by
  rw [isAbsolute, decide_eq_false_iff_not]
  exact fun habsolute => h.slash (List.mem_of_head? habsolute)

theorem isAbsolute_append {start : String} (h : start ≠ "") (rest : String) :
    isAbsolute (start ++ rest) = isAbsolute start := by
  have hne : start.toList ≠ [] := fun hnil => h (String.toList_eq_nil_iff.1 hnil)
  rw [isAbsolute, isAbsolute, String.toList_append, List.head?_append_of_ne_nil _ hne]

theorem Normal.join_cases (h : Normal name) (directory : String) :
    directory = "" ∧ join directory name = name ∨
    directory ≠ "" ∧ ∃ start, (directory = start ∨ directory = start ++ "/" ++ "") ∧
      join directory name = start ++ "/" ++ name := by
  rw [join, h.isRelative]
  by_cases hempty : directory = ""
  · exact .inl ⟨hempty, by simp [hempty]⟩
  · simp only [Bool.false_or, hempty, decide_false, Bool.false_eq_true, ↓reduceIte]
    refine .inr ⟨hempty, ?_⟩
    split
    · next hlast =>
      obtain ⟨cs, hcs⟩ := List.getLast?_eq_some_iff.1 hlast
      have hstart : directory = String.ofList cs ++ "/" ++ "" := String.toList_inj.1 (by simp [hcs])
      exact ⟨String.ofList cs, .inr hstart, by rw [hstart, String.append_empty]⟩
    · exact ⟨directory, .inl rfl, rfl⟩

theorem Normal.isAbsolute_join (h : Normal name) (directory : String) :
    isAbsolute (join directory name) = isAbsolute directory := by
  rcases h.join_cases directory with ⟨rfl, hjoin⟩ | ⟨hne, start, rfl | rfl, hjoin⟩
  · rw [hjoin, h.isRelative]
    rfl
  · rw [hjoin, String.append_assoc, isAbsolute_append hne]
  · rw [hjoin, String.append_empty, isAbsolute_append (by simp)]

theorem Normal.components_join (h : Normal name) (directory : String) :
    components (join directory name) = components directory ++ [name] := by
  have hsingle : [name].filter (· ≠ "") = [name] := List.filter_cons_of_pos (by simpa using h.empty)
  have hnamed : (Path.parts (join directory name)).filter (· ≠ "") =
      (Path.parts directory).filter (· ≠ "") ++ [name] := by
    rcases h.join_cases directory with ⟨rfl, hjoin⟩ | ⟨-, start, rfl | rfl, hjoin⟩
    · rw [hjoin, h.parts, hsingle]
      rfl
    · rw [hjoin, parts_append, List.filter_append, h.parts, hsingle]
    · rw [hjoin, parts_append, parts_append, List.filter_append, List.filter_append, h.parts,
        hsingle]
      exact congrArg (· ++ [name]) (List.append_nil _).symm
  rw [components, components, hnamed, h.isAbsolute_join]
  cases (Path.parts directory).filter (· ≠ "") with
  | nil => simp [h.dot]
  | cons first rest =>
    simp only [List.cons_append, List.filter_append]
    have hdot : [name].filter (· ≠ ".") = [name] := List.filter_cons_of_pos (by simpa using h.dot)
    rw [hdot]
    split <;> rfl

end Path

namespace Place

def start (p : Place) : String := if p.isEmpty then "/" else p.path ++ "/"

theorem path_concat (p : Place) (name : String) : (p ++ [name]).path = p.start ++ name := by
  cases p with
  | nil => rfl
  | cons part p =>
    rw [path, String.intercalate_append_of_ne_nil (List.cons_ne_nil _ _) (List.cons_ne_nil _ _),
      String.intercalate_singleton, ← String.append_assoc, ← String.append_assoc]
    rfl

end Place

theorem Disk.nameIn_concat {name : String} (h : Path.Normal name) (p : Place) :
    nameIn p (p ++ [name]).path = some name := by
  have hstart : (if p.isEmpty then "/" else p.path ++ "/") = p.start := rfl
  have hfront : (utf8 p.start).isPrefixOf (utf8 (p.start ++ name)) := by
    rw [utf8_append, List.isPrefixOf_iff_prefix]
    exact List.prefix_append ..
  have hdrop : String.ofList ((p.start ++ name).toList.drop p.start.length) = name := by
    rw [String.toList_append, ← String.length_toList, List.drop_left, String.ofList_toList]
  rw [nameIn, hstart, p.path_concat]
  simp only [hfront, ↓reduceIte, hdrop]
  simp [h.empty, h.slash]

theorem Stem.normal_fileName (stream : String) : Path.Normal (fileName stream) := by
  have hend : 'g' ∈ (fileName stream).toList := by simp [fileName]
  constructor
  · exact slash_notMem_fileName stream
  · exact fun h => absurd (h ▸ hend) (by decide)
  · exact fun h => absurd (h ▸ hend) (by decide)
  · exact fun h => absurd (h ▸ hend) (by decide)

namespace SegmentLog

/-- Only files of these streams have been changed, and only these streams are open. -/
structure Confined (l : SegmentLog) (nodes : Table Node) (streams : List String) : Prop where
  nodes : ∀ name, (∀ stream ∈ streams, Stem.fileName stream ≠ name) →
    l.nodes.get? name = nodes.get? name
  opened : ∀ stream s, l.opened.get? stream = some s → stream ∈ streams

variable {l l' : SegmentLog} {nodes : Table Node} {streams : List String} {stream : String}

theorem Confined.insert_opened (h : Confined l nodes streams) (hstream : stream ∈ streams)
    (s : OpenStream) : Confined { l with opened := l.opened.insert stream s } nodes streams where
  nodes := h.nodes
  opened t o ho := by
    rw [Table.get?_insert] at ho
    split at ho
    · next ht => exact ht ▸ hstream
    · exact h.opened t o ho

theorem Confined.insert_nodes (h : Confined l nodes streams) (hstream : stream ∈ streams)
    (node : Node) :
    Confined { l with nodes := l.nodes.insert (Stem.fileName stream) node } nodes streams where
  nodes name hname := by
    rw [Table.get?_insert_of_ne _ _ (hname stream hstream).symm]
    exact h.nodes name hname
  opened := h.opened

theorem Confined.put (h : Confined l nodes streams) (hstream : stream ∈ streams) (s : OpenStream)
    (content : Bytes) : Confined (l.put stream s content) nodes streams := by
  rw [SegmentLog.put]
  split
  · exact h.insert_opened hstream _
  · exact (h.insert_nodes hstream _).insert_opened hstream _

theorem Confined.openStream (h : Confined l nodes streams) (hstream : stream ∈ streams)
    {s : OpenStream} (hopen : l.openStream stream = .ok (s, l')) : Confined l' nodes streams := by
  simp only [SegmentLog.openStream] at hopen
  split at hopen
  · cases hopen
  · cases hopen
    exact (h.insert_nodes hstream _).insert_opened hstream _

theorem Confined.lookup (h : Confined l nodes streams) (hstream : stream ∈ streams) {create : Bool}
    {found : Option OpenStream} (hlookup : l.lookup stream create = .ok (found, l')) :
    Confined l' nodes streams := by
  simp only [SegmentLog.lookup] at hlookup
  split at hlookup
  · cases hlookup
    exact h
  · split at hlookup
    · cases hlookup
      exact h
    · split at hlookup
      · cases hlookup
      · next hopen =>
        cases hlookup
        exact h.openStream hstream hopen

theorem Confined.appendTo (h : Confined l nodes streams) (hstream : stream ∈ streams)
    (s : OpenStream) (key : String) (value : Bytes) :
    Confined (l.appendTo stream s key value).2 nodes streams := by
  simp only [SegmentLog.appendTo]
  split
  · exact h
  · exact h
  · exact h.put hstream _ _
  · exact h.put hstream _ _

theorem Confined.append (h : Confined l nodes streams) (hstream : stream ∈ streams) (key : String)
    (value : Bytes) : Confined (l.append stream key value).2 nodes streams := by
  rw [SegmentLog.append]
  split
  · exact h
  · next hlookup => exact h.lookup hstream hlookup
  · next hlookup => exact (h.lookup hstream hlookup).appendTo hstream _ key value

theorem Confined.fetch (h : Confined l nodes streams) (hstream : stream ∈ streams)
    (start max : Nat) : Confined (l.fetch stream start max).2 nodes streams := by
  rw [SegmentLog.fetch]
  split
  · exact h
  · next hlookup => exact h.lookup hstream hlookup
  · next hlookup =>
    split
    · exact h.lookup hstream hlookup
    · exact h.lookup hstream hlookup

theorem Confined.endOffset (h : Confined l nodes streams) (hstream : stream ∈ streams) :
    Confined (l.endOffset stream).2 nodes streams := by
  rw [SegmentLog.endOffset]
  split
  · exact h
  · next hlookup => exact h.lookup hstream hlookup
  · next hlookup => exact h.lookup hstream hlookup

theorem Confined.closeStream (h : Confined l nodes streams) (hstream : stream ∈ streams)
    (s : OpenStream) : Confined (l.closeStream stream s) nodes streams := by
  rw [SegmentLog.closeStream]
  split
  · exact h
  · exact h.put hstream s _

theorem Confined.reopen (h : Confined l nodes streams) : Confined l.reopen nodes streams := by
  have hclose (es : List (String × OpenStream)) (hes : ∀ e ∈ es, e.1 ∈ streams) :
      Confined (es.foldl (fun l e => l.closeStream e.1 e.2) l) nodes streams := by
    induction es generalizing l with
    | nil => exact h
    | cons e es ih =>
      obtain ⟨he, hrest⟩ := List.forall_mem_cons.1 hes
      exact ih (h.closeStream he e.2) hrest
  refine ⟨(hclose l.opened.entries fun e he => ?_).nodes, fun t o ho => by cases ho⟩
  exact h.opened e.1 e.2 ((Table.mem_entries_iff ..).1 he)

theorem Confined.serve (h : Confined l nodes streams) {r : LogRequest}
    (hr : ∀ stream, r.stream? = some stream → stream ∈ streams) :
    Confined (l.serve r).2 nodes streams := by
  cases r with
  | append stream key value => exact h.append (hr stream rfl) key value
  | fetch stream start max => exact h.fetch (hr stream rfl) start max
  | endOffset stream => exact h.endOffset (hr stream rfl)
  | reopen => exact h.reopen

theorem Confined.serveAll (h : Confined l nodes streams) {requests : List LogRequest}
    (hrequests : ∀ r ∈ requests, ∀ stream, r.stream? = some stream → stream ∈ streams) :
    Confined (serveAll SegmentLog.serve l requests).2 nodes streams := by
  induction requests generalizing l with
  | nil => exact h
  | cons r requests ih =>
    obtain ⟨hfirst, hrest⟩ := List.forall_mem_cons.1 hrequests
    exact ih (h.serve hfirst) hrest

/-- A stream is read back from its stem, which has letters, digits and three other characters only.
So its file is no other stream's, lies directly in the directory of the log, and is changed by no
request for other streams. -/
theorem stream_ownFile (stream other : String) :
    let name := Stem.fileName stream
    (Stem.ofStream stream = Stem.ofStream other ↔ stream = other) ∧
    Stem.stream? (Stem.ofStream stream) = some stream ∧
    (∀ c ∈ (Stem.ofStream stream).toList, Stem.Legal c) ∧
    (∀ directory, Path.components (Path.join directory name) = Path.components directory ++ [name] ∧
      Path.isAbsolute (Path.join directory name) = Path.isAbsolute directory) ∧
    (∀ place : Place, Disk.nameIn place (place ++ [name]).path = some name) ∧ name ≠ ".." ∧
    ∀ nodes capacity limits (requests : List LogRequest),
      (∀ r ∈ requests, r.stream? ≠ some stream) →
      (serveAll serve ⟨nodes, ∅, capacity, limits⟩ requests).2.nodes.get? name =
        nodes.get? name := by
  intro name
  have hname : Path.Normal name := Stem.normal_fileName stream
  refine ⟨⟨Stem.ofStream_injective, congrArg _⟩, Stem.stream?_ofStream stream, fun c =>
    Stem.legal_of_mem_ofStream, fun directory => ⟨hname.components_join directory,
    hname.isAbsolute_join directory⟩, Disk.nameIn_concat hname, hname.dots, ?_⟩
  intro nodes capacity limits requests hothers
  have hstart :
      Confined ⟨nodes, ∅, capacity, limits⟩ nodes (requests.filterMap LogRequest.stream?) :=
    ⟨fun _ _ => rfl, fun _ _ ho => by cases ho⟩
  have hconfined := hstart.serveAll fun r hr s hs => List.mem_filterMap.2 ⟨r, hr, hs⟩
  refine hconfined.nodes name fun s hs hsame => ?_
  obtain ⟨r, hr, hrs⟩ := List.mem_filterMap.1 hs
  exact hothers r hr (hrs.trans (congrArg some (Stem.fileName_injective hsame)))

theorem stream_ownFile_escaped :
    let requests : List LogRequest :=
      [.append "%2e%2e%2fa" "k" [1], .reopen, .append "..%2fa" "k" [2]]
    Stem.ofStream "../a" = "%2e%2e%2fa" ∧ Stem.ofStream "%2e%2e%2fa" = "%252e%252e%252fa" ∧
    ('%' ∈ (Stem.ofStream "../a").toList ∧ Stem.Legal '%') ∧
    Path.components (Path.join "logs/" "%2e%2e%2fa.log") = ["logs", "%2e%2e%2fa.log"] ∧
    (∀ r ∈ requests, r.stream? ≠ some "../a") ∧
    (serveAll serve (ofNodes (.ofList [("%2e%2e%2fa.log", .file [0])]) 8) requests).2.nodes.get?
      "%2e%2e%2fa.log" = some (.file [0]) := by
  intro requests
  obtain ⟨-, -, hlegal, hpath, -, -, hkept⟩ := stream_ownFile "../a" "%2e%2e%2fa"
  have hstem : Stem.ofStream "../a" = "%2e%2e%2fa" := by decide +kernel
  have hname : Stem.fileName "../a" = "%2e%2e%2fa.log" := by rw [Stem.fileName, hstem]; rfl
  rw [hname] at hpath hkept
  have hmem : '%' ∈ (Stem.ofStream "../a").toList := by rw [hstem]; decide
  have hothers : ∀ r ∈ requests, r.stream? ≠ some "../a" := by decide
  refine ⟨hstem, by decide +kernel, ⟨hmem, hlegal '%' hmem⟩, ?_, hothers, ?_⟩
  · exact (hpath "logs/").1.trans (by decide +kernel)
  · exact (hkept _ 8 .none requests hothers).trans (by decide +kernel)

end SegmentLog

end SchemaRegistry
