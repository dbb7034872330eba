import DropLedger.Proofs.Store.Requests

/-! A crash while a kill is added to a log. What got to the disk is a beginning of what was to be
added, and no beginning makes a kill up, damages one or hides one, now or later. -/
namespace DropLedger.Store

variable {s t : Store} {key : String} {content : Bytes}

theorem append_reads {k : Kill} (keyed : keyOf? k.name = some key)
    (before : s.disk.read (s.selection.logPath key) = .ok content) (done : s.append k = (true, t)) :
    t.disk.read (t.selection.logPath key) =
      .ok (content ++ freshLine content (Log.write [k])) := by
  have plain := logName_plain (canonical_of_keyOf? keyed)
  have way := Disk.settled_of_read plain before
  obtain ⟨_, shown⟩ := (Disk.read_child plain way).mp before
  have held : s.bytesOf key = content := by
    rw [bytesOf, Disk.fileAt, logAt, Selection.logAt, shown]
    rfl
  rw [append_stored keyed done, held]

/-- An append that is cut short adds the kill if its whole line got there, and nothing else.
Whatever is appended later is added to that, and the bytes that were there stay. -/
theorem append_survives_crash (content : Bytes) (k : Kill) :
    (∀ (s t : Store) key, keyOf? k.name = some key →
        s.disk.read (s.selection.logPath key) = .ok content → s.append k = (true, t) →
        t.disk.read (t.selection.logPath key) =
          .ok (content ++ freshLine content (Log.write [k]))) ∧
      ∀ part, part <+: freshLine content (Log.write [k]) →
        (Log.read (content ++ part)).stored =
            (Log.read content).stored ++
              (if Utf8.encode k.line <:+: part then [⟨k, .current⟩] else []) ∧
          ∀ (s t : Store) (next : Kill) key, keyOf? next.name = some key →
            s.disk.read (s.selection.logPath key) = .ok (content ++ part) →
            s.append next = (true, t) →
            ∃ longer, t.disk.read (t.selection.logPath key) = .ok longer ∧
              content ++ part <+: longer ∧
              (Log.read longer).stored =
                (Log.read (content ++ part)).stored ++ [⟨next, .current⟩] := by
  refine ⟨fun s t key keyed before done => append_reads keyed before done, fun part cut =>
    ⟨Log.stored_cut cut, fun s t next key keyed before done => ?_⟩⟩
  refine ⟨_, append_reads keyed before done, List.prefix_append _ _, ?_⟩
  rw [(Log.read_freshLine _ _).1, (Log.read_write [next]).1]
  rfl

def torn : Store where
  disk := ⟨.dir [([0x78], .dir [(logName "ab", .file [0x7B, newline, 0x7B])])], [], []⟩
  selection := ⟨⟨[0x78]⟩, none⟩

theorem torn_appended :
    torn.disk.read (torn.selection.logPath "ab") = .ok [0x7B, newline, 0x7B] ∧
      ∃ longer, (torn.append (Kill.ofEvent "Ab" unknown [])).2.disk.read
          (torn.selection.logPath "ab") = .ok longer ∧
        (Log.read longer).stored = [⟨Kill.ofEvent "Ab" unknown [], .current⟩] := by
  have keyed : keyOf? (Kill.ofEvent "Ab" unknown []).name = some "ab" := by decide +kernel
  have before : torn.disk.read (torn.selection.logPath "ab") = .ok [0x7B, newline, 0x7B] := by
    decide +kernel
  have done : torn.append (Kill.ofEvent "Ab" unknown []) =
      (true, (torn.append (Kill.ofEvent "Ab" unknown [])).2) := by
    rw [show true = (torn.append (Kill.ofEvent "Ab" unknown [])).1 by decide +kernel]
  obtain ⟨whole, cut⟩ := append_survives_crash [0x7B] (Kill.ofEvent "AB" unknown [])
  obtain ⟨held, later⟩ := cut [newline, 0x7B] (by decide +kernel)
  obtain ⟨longer, read, _, stored⟩ := later torn _ _ "ab" keyed before done
  have empty : (Log.read ([0x7B] ++ [newline, 0x7B])).stored = [] := by decide +kernel
  rw [empty, List.nil_append] at stored
  exact ⟨before, longer, read, stored⟩

end DropLedger.Store
