import BearerClient.Url.Idna.Runs

/-!
# Composed characters

A letter with marks can be written in several ways.  Its composed form puts the marks of a letter
in order of their classes and joins marks to the letter wherever there is a character for both.
Only characters that may occur in host names are in the tables.
-/

namespace BearerClient.Url.Idna

/-- Combining classes: runs with a class as their second number. -/
def classRuns : List Run := Run.table "
  Klc.0 Kl.6e K1.6g K4.64 K1.6g K1.60 K5.64 K2.5m K4.64 K2.5m Kb.64 K5.1 K4.64 Ka.6e K3.64 K3.6e
  K3.64 K3.6e K4.64 K1.6e K1.6g K2.64 K1.6e K1.6h K2.6i K1.6h K2.6i K1.6h Ke.6e K7m.0 K5.6e K7d.0
  K1.64 K4.6e K1.64 K3.6e K1.66 K1.64 K6.6e K6.64 K2.6e K1.64 K2.6e K1.66 K1.6c K1.6e K1.a K1.b
  K1.c K1.d K1.e K1.f K1.g K1.h K1.i K2.j K1.k K1.l K1.m K1.0 K1.n K1.0 K1.o K1.p K1.0 K1.6e K1.64
  K1.0 K9.i K1s.0 K8.6e K1.u K1.v K1.w K1c.0 K1.r K1.s K1.t K1.u K1.v K1.w K1.x K1.y K2.6e K2.64
  K5.6e K1.64 K2.6e K1.64 Kg.0 K1.z K2t.0 K8.6e K1.0 K4.6e K1.64 K1.6e K2.0 K2.6e K1.0 K1.64 K2.6e
  K1.64 Kz.0 K1.10 Ku.0 K1.6e K1.64 K2.6e K1.64 K2.6e K3.64 K1.6e K2.64 K1.6e K1.64 K3.6e K1.64
  K1.6e K1.64 K1.6e K1.64 K1.6e K1.64 K4.6e K4e.0 K7.6e K1.64 K1.6e K9.0 K1.64 Ko.0 K4.6e K1.0
  K9.6e K1.0 K3.6e K1.0 K7.6e K15.0 K5.64 K1m.0 K1.6e K3.64 K4.6e K16.0 K5.6e K5.64 Kf.6e K1.64
  K2.6e K1.64 K2.6e K1.64 K3.6e K3.64 K1.r K1.s K1.t K3.6e K1.64 K2.6e K2.64 K5.6e K1o.0 K1.7 Kg.0
  K1.9 K3.0 K1.6e K1.64 K2.6e K2v.0 K1.7 Kg.0 K1.9 K1c.0 K3.6e K1n.0 K2.7 Kf.0 K4.9 K2z.0 K1.7
  Kg.0 K3.9 K30.0 K1.7 Kg.0 K8.9 K3c.0 K3.9 K30.0 K1.7 Kg.0 K8.9 K1.2c K2.2j K2s.0 K1.7 Kg.0 K8.9
  K2u.0 K2.9 Kg.0 K1.9 K3g.0 K5.9 K2x.0 K2.2v K5.9 K9.0 K4.2z K30.0 K2.3a K1.9 Kd.0 K4.3e K24.0
  K2.64 Kr.0 K1.64 K1.0 K1.64 K1.0 K1.60 K1j.0 K1.3l K2.3m K6.3o K4.3m K2.0 K2.3m K2.6e K1.9 K1.0
  K2.6e K1q.0 K1.64 K34.0 K1.7 K1.0 K2.9 K2a.0 K1.64 Kjz.0 K3.6e Kqc.0 Kb.9 Kl.0 K1.9 K4d.0 K1.9
  Ka.0 K3.6e K5l.0 K1.6c K3z.0 K1.66 K1.6e K5.64 K5z.0 K1.6e K1.64 K1z.0 K1.9 Kk.0 Ka.6e K1.64
  K1c.0 K5.6e K6.64 K2.6e K1.64 K1.0 K2.64 K2.6e K2.64 K5.6e K1.64 K4.6e K2t.0 K1.7 Kf.0 K1.9
  K12.0 K1.6e K1.64 K7.6e K1i.0 K2.9 K1m.0 K1.7 Kb.0 Ka.9 K1n.0 K4.7 K45.0 K3.6e K1.0 K1.1 K5.64
  K2.6e K4.64 K1.6e K1.0 K7.1 K4.0 K1.64 K6.0 K1.6e K3.0 K2.6e K5i.0 K2.6e K1.64 K7.6e K1.64 K2.6e
  K1.6i K1.5y K1.64 K1.5m K11.6e K1.6g K2.6c K1.64 K1.62 K1.6e K1.6h K1.64 K1.6e K2.64 Kjz.0 K2.6e
  K2.1 K4.6e K3.1 K2.6e K4.0 K1.6e K3.0 K2.1 K1.6e K1.64 K1.6e K2.1 K4.64 Kk.6e K2cr.0 K4.6e K3w.0
  K1.9 K2o.0 Kw.6e Kfe.0 K1.62 K1.6c K1.6g K1.66 K2.68 K2x.0 K4.8 Kn9u.0 K1.6e K4.0 Ka.6e Kw.0
  K2.6e K28.0 K2.6e K7o.0 K1.9 K11.0 K4.9 K44.0 K1.9 Kr.0 Ki.6e K1l.0 K3.64 K11.0 Kc.9 K2c.0 K1.7
  Kc.0 K1.9 K6n.0 K1.6e K1.0 K2.6e K1.64 K2.0 K2.6e K5.0 K2.6e K1.0 K1.6e K1g.0 Kb.9 K6k.0 K3.9
  Kfn2.0 K44.q Kha.0 K7.6e K7.64 Kn.6e Kqg.0 K3n.64 K2o.0 K1.64 K45.0 Ka.6e K1al.0 K1.64 K1.0
  K1.6e K14.0 K1.6e K1.1 K5.64 K1.9 K4l.0 K1.6e K5.64 Kft.0 Kc.6e Kaj.0 K2.6e K28.0 K3.64 K1y.0
  K2.64 K3.6e K1.64 K1.6e K4.64 K1d.0 K1.6e K1.64 K1.6e K1.64 K5c.0 K1.9 K15.0 K1.9 Ke.0 K1.9
  K1l.0 K1.9 K1.7 K1x.0 K3.6e K1c.0 K3.9 K1p.0 K1.7 K24.0 K1.9 K9.0 K1.7 K2y.0 K1.9 K1.7 K4y.0
  K1.7 K6.9 K23.0 K2.7 Kg.0 K3.9 Km.0 Kq.6e K5e.0 K1.9 K3.0 K1.7 Kn.0 K1.6e K2r.0 K1.9 K1.7 K6z.0
  K1.9 K1.7 K3i.0 K1.9 K3a.0 K1.9 K1.7 K37.0 K5.9 K7d.0 K1.9 K1.7 K76.0 K2.9 K4.0 K1.7 K4c.0 K1.9
  K2b.0 K1.9 Ki.0 K9.9 K21.0 K1.9 Kbp.0 K1.9 K76.0 K1.7 K1.0 K2.9 K29.0 K1.9 Kbt.0 K2.9 Key5.0
  K5.1 K1n.0 K7.6e Kxl.0 K2.6 Kf58.0 K1.1 K43q.0 K2.60 K3.1 K3.0 K1.6a Kd.60 K8.64 K2.0 K5.6e
  K2.64 Ku.0 K4.6e K44.0 K3.6e K2pn.0 K74.6e K1c.0 K7.6e Kaf.0 Ki.6e K18.0 K4.6e Ke4.0 K2.6g K1.64
  K1.6e Krk.0 K2a.64 Ky.0 K6.6e K1.7"

/-- Composed characters: the distance from the one before, and the two parts. -/
def pairRuns : List Run := Run.table "
  P68.2p.lc P1.2p.ld P1.2p.le P1.2p.lf P1.2p.lk P1.2p.lm P2.2r.mf P1.2t.lc P1.2t.ld P1.2t.le
  P1.2t.lk P1.2x.lc P1.2x.ld P1.2x.le P1.2x.lk P2.32.lf P1.33.lc P1.33.ld P1.33.le P1.33.lf
  P1.33.lk P3.39.lc P1.39.ld P1.39.le P1.39.lk P1.3d.ld P2.3d.lk P2.2p.lg P2.2p.li P2.2p.mg
  P2.2r.ld P2.2r.le P2.2r.lj P2.2r.lo P2.2s.lo P4.2t.lg P2.2t.li P2.2t.lj P2.2t.mg P2.2t.lo
  P2.2v.le P2.2v.li P2.2v.lj P2.2v.mf P2.2w.le P4.2x.lf P2.2x.lg P2.2x.li P2.2x.mg P6.2y.le
  P2.2z.mf P3.30.ld P2.30.mf P2.30.lo P6.32.ld P2.32.mf P2.32.lo P5.33.lg P2.33.li P2.33.ln
  P4.36.ld P2.36.mf P2.36.lo P2.37.ld P2.37.le P2.37.mf P2.37.lo P2.38.mf P2.38.lo P4.39.lf
  P2.39.lg P2.39.li P2.39.lm P2.39.ln P2.39.mg P2.3b.le P2.3d.le P3.3e.ld P2.3e.lj P2.3e.lo
  Pz.33.m3 Pf.39.m3 Pu.2p.lo P2.2x.lo P2.33.lo P2.39.lo P2.70.lg P2.70.ld P2.70.lo P2.70.lc
  P3.6c.lg P2.fb.lg P2.6e.lg P4.2v.lo P2.2z.lo P2.33.mg P2.dn.lg P2.ia.lo P1.2y.lo P5.2v.ld
  P4.32.lc P2.6d.ld P2.6e.ld P2.6w.ld P2.2p.lr P2.2p.lt P2.2t.lr P2.2t.lt P2.2x.lr P2.2x.lt
  P2.33.lr P2.33.lt P2.36.lr P2.36.lt P2.39.lr P2.39.lt P2.37.me P2.38.me P4.2w.lo P8.2p.lj
  P2.2t.mf P2.6u.lg P2.6t.lg P2.33.lj P2.fj.lg P2.3d.lg P9p.qy.ld Ps.q9.ld P1.qd.ld P1.qf.ld
  P1.qh.ld P1.qz.ld Pq.qh.lk P1.qt.lk P1.qn.ld P1.qt.ld P1.qx.ld P2z.u0.li Pn.tx.lc P1.tx.lk
  P2.tv.ld P4.uu.lk P5.u2.ld P1.u0.lc P1.ub.li Pp.vp.lr P23.ty.li Pf.ts.li P2.ts.lk P4.tx.li
  P4.yh.lk P2.ty.lk P2.tz.lk P4.u0.lg P2.u0.lk P2.u6.lk P4.yx.lk P2.ul.lk P2.ub.lg P2.ub.lk
  P2.ub.ln P2.uf.lk P4.uj.lk P89.17r.18z P1.17r.190 P1.18o.190 P1.17r.191 P1.18q.190 P4a.1cl.190
  P2.1c1.190 Ph.1ci.190 Pgm.1t4.1to P8.1tc.1to P3.1tf.1to P47.1xj.1xa P1.1xj.1xz Pak.287.28m
  P3.287.27y P1.287.28n P20.2aa.2c7 P1i.2bq.2bi P1.2br.2bi P1.2bq.2c7 P3g.2fa.2fq P3c.2in.2j9
  P7.2iu.2j9 P1.2iu.2ja P2.2iu.2iq P1.2iy.2j9 P3j.2me.2m6 P1.2mf.2m6 P1.2me.2mv P3y.2qh.2q2
  P2.2qh.2q7 P1.2qk.2q2 P1.2qh.2qn Pg8.36t.372 P25c.5c5.5dh P2.5c7.5dh P2.5c9.5dh P2.5cb.5dh
  P2.5cd.5dh P4.5ch.5dh P15.5dm.5dh P2.5do.5dh P3.5dq.5dh P1.5dr.5dh P2.5du.5dh Pji.2p.md P2.2q.lj
  P2.2q.mb P2.2q.mp P2.6f.ld P2.2s.lj P2.2s.mb P2.2s.mp P2.2s.mf P2.2s.ml P2.7n.lc P2.7n.ld
  P2.2t.ml P2.2t.mo P2.fd.li P2.2u.lj P2.2v.lg P2.2w.lj P2.2w.mb P2.2w.lk P2.2w.mf P2.2w.mm
  P2.2x.mo P2.6n.ld P2.2z.ld P2.2z.mb P2.2z.mp P2.30.mb P2.5yv.lg P2.30.mp P2.30.ml P2.31.ld
  P2.31.lj P2.31.mb P2.32.lj P2.32.mb P2.32.mp P2.32.ml P2.6t.ld P2.6t.lk P2.99.lc P2.99.ld
  P2.34.ld P2.34.lj P2.36.lj P2.36.mb P2.5zv.lg P2.36.mp P2.37.lj P2.37.mb P2.9n.lj P2.9t.lj
  P2.603.lj P2.38.lj P2.38.mb P2.38.mp P2.38.ml P2.39.mc P2.39.mo P2.39.ml P2.a1.ld P2.a3.lk
  P2.3a.lf P2.3a.mb P2.3b.lc P2.3b.ld P2.3b.lk P2.3b.lj P2.3b.mb P2.3c.lj P2.3c.lk P2.3d.lj
  P2.3e.le P2.3e.mb P2.3e.mp P1.2w.mp P1.38.lk P1.3b.lm P1.3d.lm P8.2p.mb P2.2p.ll P2.6a.ld
  P2.6a.lc P2.6a.ll P2.6a.lf P2.61t.le P2.77.ld P2.77.lc P2.77.ll P2.77.lf P2.61t.li P2.2t.mb
  P2.2t.ll P2.2t.lf P2.6i.ld P2.6i.lc P2.6i.ll P2.6i.lf P2.62h.le P2.2x.ll P2.2x.mb P2.33.mb
  P2.33.ll P2.6s.ld P2.6s.lc P2.6s.ll P2.6s.lf P2.631.le P2.bl.ld P2.bl.lc P2.bl.ll P2.bl.lf
  P2.bl.mb P2.39.mb P2.39.ll P2.c0.ld P2.c0.lc P2.c0.ll P2.c0.lf P2.c0.mb P2.3d.lc P2.3d.mb
  P2.3d.ll P2.3d.lf P7.q9.lv P1.q9.lw P1.64g.lc P1.64h.lc P1.64g.ld P1.64h.ld P1.64g.n6 P1.64h.n6
  P9.qd.lv P1.qd.lw P1.64w.lc P1.64x.lc P1.64w.ld P1.64x.ld Pb.qf.lv P1.qf.lw P1.65c.lc P1.65d.lc
  P1.65c.ld P1.65d.ld P1.65c.n6 P1.65d.n6 P9.qh.lv P1.qh.lw P1.65s.lc P1.65t.lc P1.65s.ld
  P1.65t.ld P1.65s.n6 P1.65t.n6 P9.qn.lv P1.qn.lw P1.668.lc P1.669.lc P1.668.ld P1.669.ld Pb.qt.lv
  P1.qt.lw P1.66o.lc P1.66p.lc P1.66o.ld P1.66p.ld P1.66o.n6 P1.66p.n6 P9.qx.lv P1.qx.lw P1.674.lc
  P1.675.lc P1.674.ld P1.675.ld P1.674.n6 P1.675.n6 P9.q9.lc P2.qd.lc P2.qf.lc P2.qh.lc P2.qn.lc
  P2.qt.lc P2.qx.lc P1g.q9.li P1.q9.lg P5.q9.n6 Pg.qf.n6 Pa.qh.li P1.qh.lg P1.qy.lc P4.qh.n6
  P1.qy.n6 P9.qt.li P1.qt.lg P1.qz.lc P2.qp.lv P1.qp.lw P1.qt.n6 P1.qz.n6 Pf.qx.n6 Pbo.6mo.mw
  P1.6mq.mw Pj.6ms.mw Pv.6og.mw P1.6ok.mw P1.6oi.mw P1h.6pv.mw P5.6q0.mw P3.6q3.mw Po.6qr.mw
  P2.6qt.mw Pr.6rg.mw P3.6rn.mw P3.6rp.mw P2.6rs.mw Pn.1p.mw P2.6sh.mw Pb.6rx.mw P1.1o.mw P1.1q.mw
  P1.6sk.mw P1.6sl.mw P3.6sy.mw P1.6sz.mw P3.6t2.mw P1.6t3.mw P7.6t6.mw P1.6t7.mw P3.6te.mw
  P1.6tf.mw P3.6ti.mw P1.6tj.mw Pz.6ua.mw P1.6ug.mw P1.6uh.mw P1.6uj.mw P1d.6t8.mw P1.6t9.mw
  P1.6tt.mw P1.6tu.mw P7.6uq.mw P1.6ur.mw P1.6us.mw P1.6ut.mw P2n3.9jf.9ll P2.9jh.9ll P2.9jj.9ll
  P2.9jl.9ll P2.9jn.9ll P2.9jp.9ll P2.9jr.9ll P2.9jt.9ll P2.9jv.9ll P2.9jx.9ll P2.9jz.9ll
  P2.9k1.9ll P3.9k4.9ll P2.9k6.9ll P2.9k8.9ll P7.9kf.9ll P1.9kf.9lm P2.9ki.9ll P1.9ki.9lm
  P2.9kl.9ll P1.9kl.9lm P2.9ko.9ll P1.9ko.9lm P2.9kr.9ll P1.9kr.9lm Pn.9ja.9ll Pa.9lp.9ll
  Pe.9m3.9ll P2.9m5.9ll P2.9m7.9ll P2.9m9.9ll P2.9mb.9ll P2.9md.9ll P2.9mf.9ll P2.9mh.9ll
  P2.9mj.9ll P2.9ml.9ll P2.9mn.9ll P2.9mp.9ll P3.9ms.9ll P2.9mu.9ll P2.9mw.9ll P7.9n3.9ll
  P1.9n3.9lm P2.9n6.9ll P1.9n6.9lm P2.9n9.9ll P1.9n9.9lm P2.9nc.9ll P1.9nc.9lm P2.9nf.9ll
  P1.9nf.9lm Pn.9ly.9ll P3.9nz.9ll P1.9o0.9ll P1.9o1.9ll P1.9o2.9ll P4.9od.9ll P1864.1huh.1hve
  P2.1huj.1hve Pf.1hut.1hve P3n.1hyp.1hyf P1.1hyq.1hyf Pf0.1idj.1ida P1.1idj.1idz Pa7.1int.1inu
  P1.1int.1ink P2.1int.1inx P70.1iuw.1iun P1.1iux.1iun Pot.1jjp.1jjk"

/-- The first of all marks. -/
def firstMark : Nat := 0x300

/-- The first character that a mark can be joined to. -/
def firstMarked : Nat := 0x3C

/-- The first composed character. -/
def firstComposed : Nat := 0xC0

/-- The combining class of a character; 0 is that of letters. -/
def combiningClass (c : Char) : Nat :=
  if c.toNat < firstMark then 0
  else match Run.find? classRuns c.toNat with
  | some (run, _) => (run.numbers[1]?.getD 0).toNat
  | none => 0

/-- Composed characters with their two parts, from the character `before` on. -/
def pairsAfter (before : Int) : List Run → List (Char × Char × Char)
  | [] => []
  | run :: runs =>
    match run.numbers with
    | [distance, first, second] =>
      (Char.ofNat (before + distance).toNat, Char.ofNat first.toNat, Char.ofNat second.toNat) ::
        pairsAfter (before + distance) runs
    | _ => pairsAfter before runs

def pairs : List (Char × Char × Char) := pairsAfter 0 pairRuns

/-! ## Korean syllables

A syllable has a leading consonant, a vowel and perhaps a trailing consonant, and its code point is
computed from theirs. -/

def leadBase : Nat := 0x1100
def vowelBase : Nat := 0x1161
def trailBase : Nat := 0x11A7
def syllableBase : Nat := 0xAC00
def leads : Nat := 19
def vowels : Nat := 21
def trails : Nat := 28

/-- The parts of a syllable. -/
def syllableParts? (c : Char) : Option (List Char) :=
  let index := c.toNat - syllableBase
  if syllableBase ≤ c.toNat ∧ index < leads * vowels * trails then
    let lead := Char.ofNat (leadBase + index / (vowels * trails))
    let vowel := Char.ofNat (vowelBase + index % (vowels * trails) / trails)
    some (if index % trails = 0 then [lead, vowel]
      else [lead, vowel, Char.ofNat (trailBase + index % trails)])
  else none

/-- The syllable that two parts make. -/
def syllable? (a b : Char) : Option Char :=
  let lead := a.toNat - leadBase
  let vowel := b.toNat - vowelBase
  let index := a.toNat - syllableBase
  let trail := b.toNat - trailBase
  if leadBase ≤ a.toNat ∧ lead < leads ∧ vowelBase ≤ b.toNat ∧ vowel < vowels then
    some (Char.ofNat (syllableBase + (lead * vowels + vowel) * trails))
  else if syllableBase ≤ a.toNat ∧ index < leads * vowels * trails ∧ index % trails = 0 ∧
      trailBase < b.toNat ∧ trail < trails then
    some (Char.ofNat (a.toNat + trail))
  else none

/-! ## Decomposing, ordering, composing -/

/-- The parts of a syllable, or of the first of the two parts of a composed character and the
second one. -/
def splitWith (partsOfFirst : Char → List Char) (c : Char) : List Char :=
  match syllableParts? c with
  | some cs => cs
  | none =>
    match pairs.find? (·.1 = c) with
    | some (_, first, second) => partsOfFirst first ++ [second]
    | none => [c]

/-- The parts of a character that is composed at most `depth` times over. -/
def parts : (depth : Nat) → Char → List Char
  | 0, c => [c]
  | depth + 1, c => if c.toNat < firstComposed then [c] else splitWith (parts depth) c

/-- How many marks a character may be composed of. -/
def maxParts : Nat := 4

def decomposed (text : List Char) : List Char := text.flatMap (parts maxParts)

/-- Puts a mark among marks in order of their classes, after those of its own class. -/
def insertMark (c : Char) : List Char → List Char
  | [] => [c]
  | d :: rest =>
    if combiningClass c < combiningClass d then c :: d :: rest else d :: insertMark c rest

/-- Orders the marks after each letter; `marks` are those read so far. -/
def ordered (marks : List Char) : List Char → List Char
  | [] => marks
  | c :: rest =>
    if combiningClass c = 0 then marks ++ c :: ordered [] rest
    else ordered (insertMark c marks) rest

/-- The character for two. -/
def composite? (a b : Char) : Option Char :=
  if a.toNat < firstMarked ∨ b.toNat < firstMark then none
  else (syllable? a b).or ((pairs.find? fun pair => pair.2 = (a, b)).map (·.1))

/-- Composes text after a letter; `marks` are those that could not be joined to it.  A mark reaches
the letter unless one of its class or a higher one, or another letter, stands between them. -/
def composedAfter (letter : Char) (marks : List Char) : List Char → List Char
  | [] => letter :: marks
  | c :: rest =>
    let reaches := match marks.getLast? with
      | none => true
      | some last => combiningClass last < combiningClass c
    match if reaches then composite? letter c else none with
    | some joined => composedAfter joined marks rest
    | none =>
      if combiningClass c = 0 then letter :: marks ++ composedAfter c [] rest
      else composedAfter letter (marks ++ [c]) rest

def composed : List Char → List Char
  | [] => []
  | c :: rest => if combiningClass c = 0 then composedAfter c [] rest else c :: composed rest

/-- The composed form of a text. -/
def normalForm (text : List Char) : List Char := composed (ordered [] (decomposed text))

end BearerClient.Url.Idna
