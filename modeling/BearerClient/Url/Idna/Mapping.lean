import BearerClient.Url.Idna.Runs

/-!
# Mapping of characters in host names

What becomes of a character in a host name before anything else happens to it: most characters stay
what they are, capital letters and forms for compatibility are mapped to others, some characters
are dropped, and some may not occur at all.
-/

namespace BearerClient.Url.Idna

inductive Status where
  | valid
  | ignored
  | disallowed
  | mapped (text : List Char)
  deriving Repr, DecidableEq

/-- The table from the first character beyond ASCII on.  Runs are valid (`V`), ignored (`I`) or
disallowed (`X`); shifted by a distance (`S`); alternately mapped to the next character and valid,
as capital and small letters (`A`); all mapped to one text (`C`).  A single character is mapped to a
text (`M`). -/
def mappingRuns : List Run := Run.table "
  Xw Mw V7 Mw.lk V1 M2p V2 I1 V1 Mw.lg V2 S2.-3k Mw.ld Mqk V2 Mw.mf M1d M33 V1 M1d.6dg.1g
  M1d.6dg.1e M1f.6dg.1g V1 Sn.w V1 S7.w Vx A1c M2x.lj V1 C2.2x.2y A4 V1 A6 C2.30.53 A8 Mjg.32 A1a
  M73 A6 M37 V1 Mgj A4 Mgk Maw V1 S2.5p Mb0 V2 Md9 Mgp Mgr Mb6 V1 Mgw Mgz V1 Mh5 Mh4 Mbd V3 Mhb
  Mhe V1 Mhh A6 Mhs Mbs V1 Mhv V2 Mbx V1 Mi0 Mc0 V1 S2.61 A4 Mia Mc9 V3 Mcd V7 C3.2s.am C3.30.2y
  C3.32.2y Ag V1 Ai V1 C3.2s.3e Mdx V1 Mb9 Mcf A14 Mbi V1 Ai V6 M8rp Mfw V1 Mbe M8rq V2 Mg2 V1 Mao
  Mi1 Mi4 Aa V2o M2w Mh2 M2y M36 Mhl Mhn Mht M3b M3d Vv Mw.li Mw.lj Mw.lm Mw.mg Mw.lf Mw.ln V2 Mgz
  M30 M37 M3c Mid V2j S2.-1s V1 Mlv Mlk.ld Mqh V9 I1 Vw A4 Mjd V1 Mon V1 X2 Mw.qh V3 M1n Ms3 X4
  Mw.ld Mw.lk.ld Mq4 M53 S3.11 X1 Mr0 X1 S2.1r V1 Sh.w X1 S9.w Vz Mrb Mqa Mqg Mqt Mr1 Mqz Mqu Mqo
  V1 Ao Mqi Mqp Mqr V1 Mqg Mqd V1 Ms8 V1 Mqr Msb V2 S3.-3m Sg.28 Sw.w V1c Ay V8 A1i My7 Ae V1 A2o
  X1 S12.1c X2 V1a M12d.136 V3 X2 V3 X1 V1j X8 Vr X4 V6 Xh Vm X1 V2g M17r.19w M18o.19w M1c7.19w
  M18q.19w V2s X1 V1c X2 V1n X2 V2t Xe V1n X2 V1d X2 Vf X1 Vs X2 V1 X1 Vb X5 Vw X7 V23 X1 V39
  M1sl.1to M1sm.1to M1sn.1to M1ss.1to M1sx.1to M1sy.1to M1t7.1to M1tb.1to V10 X1 V8 X2 V2 X2 Vm X1
  V7 X1 V1 X3 V4 X2 V9 X2 V2 X2 V4 X8 V1 X4 M1wh.1x8 M1wi.1x8 X1 M1wv.1x8 V4 X2 Vp X2 V3 X1 V6 X4
  V2 X2 Vm X1 V7 X1 V1 M20i.20s X1 V1 M20o.20s X1 V2 X2 V1 X1 V5 X4 V2 X2 V3 X3 V1 X7 M1zq.20s
  M1zr.20s M1zw.20s V1 X1 M20b.20s X7 Vh Xa V3 X1 V9 X1 V3 X1 Vm X1 V7 X1 V2 X1 V5 X2 Va X1 V3 X1
  V3 X2 V1 Xf V4 X2 Vc X7 V7 X1 V3 X1 V8 X2 V2 X2 Vm X1 V7 X1 V2 X1 V5 X2 V9 X2 V2 X2 V3 X7 V3 X4
  M275.27w M276.27w X1 V5 X2 Vi Xa V2 X1 V6 X3 V3 X1 V4 X3 V2 X1 V1 X1 V2 X3 V2 X3 V3 X3 Vc X4 V5
  X3 V3 X1 V4 X2 V1 X6 V1 Xe Vl X5 Vd X1 V3 X1 Vn X1 Vg X2 V9 X1 V3 X1 V4 X7 V2 X1 V3 X1 V2 X2 V4
  X2 Va X7 Vm X1 V3 X1 Vn X1 Va X1 V5 X2 V9 X1 V3 X1 V4 X7 V2 X5 V3 X1 V4 X2 Va X1 V3 Xc Vd X1 V3
  X1 V1f X1 V3 X1 V6 X4 Vg X2 Vq X1 V3 X1 Vi X3 Vo X1 V9 X1 V1 X2 V7 X3 V1 X4 V6 X1 V1 X1 V8 X6 Va
  X2 V3 Xc V1e M2tp.2sy V7 X4 Vt X11 V2 X1 V1 X1 V5 X1 Vo X1 V1 X1 Vc M2x9.2wi Va X2 V5 X1 V1 X1
  V7 X1 Va X2 M2wb.2vt M2wb.2w1 V2 Xw Vc M2yz V1i M30i.33r V4 X1 V4 M30s.33r V4 M30x.33r V4
  M312.33r V4 M317.33r Vc M30g.33p V3 X4 V2 M31t.31u V1 M31t.31w M33m.328 M33m.31t.328 M33n.328
  M33n.31t.328 V7 M31t.328 Vh M32q.33r V4 X1 V4 M330.33r V4 M335.33r V4 M33a.33r V4 M33f.33r Vc
  M32o.33p V3 X1 Vf X1 Vd X11 V4g S12.5ls X1 M8x3 X5 M8x9 X2 V18 M3bw V2q I2 V6g X1 V4 X2 V7 X1 V1
  X1 V4 X2 V15 X1 V4 X2 Vx X1 V4 X2 V7 X1 V1 X1 V4 X2 Vf X1 V1l X1 V4 X2 V1v X2 Vw X3 Vq X6 V2e X2
  S6.-8 X2 Vhs X1 Vs X3 V2h X7 Vm X9 Vo X9 Vk Xc Vd X1 V3 X1 V2 Xc V1g I2 V14 X2 Va X6 Va X6 Vb I5
  Va X6 V2h X7 V17 X5 V1y Xa Vv X1 Vc X4 Vc X4 V1 X3 V16 X2 V5 Xb V18 X4 Vq X6 Vb X3 V1q X2 V1t X1
  Vt X2 Vb X6 Va X6 Ve X2 V1a X2 Vc Xk V25 X1 V4m X8 V1o X3 Vf X3 V1f Mtu Mtw Mu6 S2.-4si Mua Mui
  Mv7 Mwuj M5my V1 X5 S17.-2bk X2 S3.-2bk V8 X8 V17 X5 V18 M2p M6e M2q V1 S2.-5os Md9 S8.-5os V1
  M33 Mf7 M34 M36 S2.-5os M3b M2p S2.-5bo M5qa M2q S2.-5pg Mgp S2.-5bk M2v V1 M2z M31 M97 M33 Mgk
  S2.-1q M34 S2.-5pf M5r1 Mhb M3a M5r9 S3.-52j S2.-522 M2x M36 S2.-5pr S2.-52s Mqp S2.-52b Vd Mu5
  Vy Mgi M2r Mgl M6o Mgs M2u Mgv Mgx Mh1 S3.-5do M5tn Mil Mh9 M5tx Min Mhd Mhc S4.-5do Mhk S2.-5dd
  Mbv S2.-5d9 M5r0 S2.-5da M3e S3.-5d8 Mqg V1s A46 V4 M2p.ji M601 V2 M67 V1 A2o V8 S8.-8 V6 X2
  S6.-8 X2 V8 S8.-8 V8 S8.-8 V6 X2 S6.-8 X2 V8 X1 M66p X1 M66r X1 M66t X1 M66v V8 S8.-8 V1 Mq4 V1
  Mq5 V1 Mq6 V1 Mq7 V1 Mr0 V1 Mr1 V1 Mr2 X2 M64g.qh M64h.qh M64i.qh M64j.qh M64k.qh M64l.qh
  M64m.qh M64n.qh M64g.qh M64h.qh M64i.qh M64j.qh M64k.qh M64l.qh M64m.qh M64n.qh M65c.qh M65d.qh
  M65e.qh M65f.qh M65g.qh M65h.qh M65i.qh M65j.qh M65c.qh M65d.qh M65e.qh M65f.qh M65g.qh M65h.qh
  M65i.qh M65j.qh M674.qh M675.qh M676.qh M677.qh M678.qh M679.qh M67a.qh M67b.qh M674.qh M675.qh
  M676.qh M677.qh M678.qh M679.qh M67a.qh M67b.qh V2 M67k.qh Mq9.qh Mq4.qh X1 V1 M69i.qh S2.-8
  M67k Mq4 Mq9.qh Mw.lv Mqh Mw.lv Mw.n6 Mw.lk.n6 M67o.qh Mqf.qh Mq6.qh X1 V1 M69y.qh M67m Mq5 M67o
  Mq6 Mqf.qh Mw.lv.lc Mw.lv.ld Mw.lv.n6 V3 Mpc X2 V2 S2.-8 M67q Mq7 X1 Mw.lw.lc Mw.lw.ld Mw.lw.n6
  V3 Mq8 V4 S2.-8 M67u Mr1 M6at Mw.lk.lc Mw.lk.ld M2o X2 M67w.qh Mqx.qh Mr2.qh X1 V1 M6ba.qh M67s
  Mr0 M67w Mr2 Mqx.qh Mw.ld Mw.lw X1 Cb.w I1 V2 X2 V1 M6c0 V5 Mw.mr Vc X3 V1 X7 Mw V3 M6cy.6cy
  M6cy.6cy.6cy V1 M6d1.6d1 M6d1.6d1.6d1 V4 Mx.x V1 Mw.lh V8 M1r.1r M1r.x Mx.1r Vd M6cy.6cy.6cy.6cy
  V7 Mw I5 X5 I6 M1c M2x X2 S6.-6dc M17 M6qa M1p S2.-6dx M32 Sa.-6ds M17 M6qa M1p S2.-6ed X1 M2p
  M2t M33 M3c Mgp M2w S4.-6cr M34 S2.-6co X3 V8 M36.37 Vp Xe Vx Xf M2p.1b.2r M2p.1b.37 M2r M4w.2r
  V1 M2r.1b.33 M2r.1b.39 Mgr V1 M4w.2u S2.-6g3 C3.2w M87 C2.2x C2.30 V1 M32 M32.33 V2 S3.-6g9
  C2.36 V2 M37.31 M38.2t.30 M38.31 V1 M3e V1 Mqx V1 M3e V1 M2z M6d S2.-6h6 V1 C2.2t M2u M6ku M31
  M33 S4.-5et M2x V1 M2u.2p.3c Mqo C2.qb Mqo M6q9 V4 C2.2s M2t S2.-6hr V6 M1d.6dg.1j M1d.6dg.1l
  M1d.6dg.1d.1c M1d.6dg.1f M1e.6dg.1f M1d.6dg.1h M1e.6dg.1h M1f.6dg.1h M1g.6dg.1h M1d.6dg.1i
  M1h.6dg.1i M1d.6dg.1k M1f.6dg.1k M1h.6dg.1k M1j.6dg.1k M1d.6dg M2x M2x.2x M2x.2x.2x M2x.3a M3a
  M3a.2x M3a.2x.2x M3a.2x.2x.2x M2x.3c M3c M3c.2x M3c.2x.2x M30 S2.-6iy M31 M2x M2x.2x M2x.2x.2x
  M2x.3a M3a M3a.2x M3a.2x.2x M3a.2x.2x.2x M2x.3c M3c M3c.2x M3c.2x.2x M30 S2.-6je M31 V3 M6mc V5
  M1c.6dg.1f V2 X4 V4c M6qz.6qz M6qz.6qz.6qz V1 M6r2.6r2 M6r2.6r2.6r2 V6w S2.2jj V73 Xm Vb Xl
  S9.-75b M1d.1c M1d.1d M1d.1e M1d.1f M1d.1g M1d.1h M1d.1i M1d.1j M1d.1k M1d.1l M1e.1c M14.1d.15
  M14.1e.15 M14.1f.15 M14.1g.15 M14.1h.15 M14.1i.15 M14.1j.15 M14.1k.15 M14.1l.15 M14.1d.1c.15
  M14.1d.1d.15 M14.1d.1e.15 M14.1d.1f.15 M14.1d.1g.15 M14.1d.1h.15 M14.1d.1i.15 M14.1d.1j.15
  M14.1d.1k.15 M14.1d.1l.15 M14.1e.1c.15 Xk M14.2p.15 M14.2q.15 M14.2r.15 M14.2s.15 M14.2t.15
  M14.2u.15 M14.2v.15 M14.2w.15 M14.2x.15 M14.2y.15 M14.2z.15 M14.30.15 M14.31.15 M14.32.15
  M14.33.15 M14.34.15 M14.35.15 M14.36.15 M14.37.15 M14.38.15 M14.39.15 M14.3a.15 M14.3b.15
  M14.3c.15 M14.3d.15 M14.3e.15 Sq.-76d Sq.-773 M1c V10h M6qz.6qz.6qz.6qz V2v M1m.1m.1p M1p.1p
  M1p.1p.1p V2t M8gt.mw V47 X2 V3u S1c.1c V1c M8rl V1 Mh7 M5tp Mhp V2 A6 Mgh Mhd Mgg Mgi V1 M8s3
  V2 M8s6 V6 M2y M3a S2.-8cf A2s V7 A4 V3 M8vn V1 X5 V19 X1 V1 X5 V1 X2 V1k X7 M8yp V1 Xe Vo X9 V7
  X1 V7 X1 V7 X1 V7 X1 V7 X1 V7 X1 V7 X1 V7 X1 V3i Xy Vq X1 V4 Mlal V2b Mvj3 Xc Mfeo Mffs Mfg6
  Mfgf Mfh5 Mfid Mfik Mfj4 Mfju Mg1r Mg2t Mg2z Mg3m Mg46 Mg4r Mg68 Mg6t Mg74 Mgbf Mge1 Mget Mgey
  Mgfs Mgg1 Mggs Mgh5 Mghu Mgja Mgjs Mgkj Mh5j Mh7j Mhkb Mhky Mhl6 Mhlh Mhlz Mho3 Mi1c Mi2o Mi60
  Mi6n Mi76 Mi7s Mi9a Mi9d Mijf Mijp Mik1 Mike Minm Minu Minz Mir8 Miri Mirv Mis3 Mits Miu9 Miur
  Miwz Mjd4 Mjee Mjez Mjzj Mjzo Mk1z Mk2f Mk2s Mk3d Mk4g Mk4l Mkc0 Mkco Mkdk Ml5s Ml7m Ml89 Ml9v
  Mlaj Mlas Mlaz Mlcf Mlck Mldg Mm7f Mmju Mmk6 Mmkb Mmkf Mmkn Mml5 Mml7 Mmng Mmtg Mmtl Mn30 Mn3a
  Mn4o Mn4v Mn54 Mn5c Mn7v Mn82 Mnee Mnel Mnfy Mngf Mnhq Mnob Mnoi Mnoz Mny2 Mo1k Mo1q Mo6s Mo97
  Moah Mokz Mooo Mp4m Mp5d Mp6y Mp8d Mpa9 Mpak Mpaq Mpbn Mpdr Mpe1 Mpnn Mpnu Mpo3 Mpoc Mpos Mpp7
  Mppb Mpri Mprm Mprs Mqj1 Mqjv Mqww Mqx8 Mqxv Mr5q Mr63 Mr82 Mr9c Mrp3 Mrpi Mrpx Mrqw Mrrx Mrxg
  Mrxs Mrzn Ms6j Ms7e Msd7 Msds Msdx Msk1 Msp5 Mssm Msss Mssx Mtiv Mtj4 Mtng Mtrq Mtrt Mtt4 Mtw1
  Mtwe Mtwi Mtwp Mtzf Mu0d Mu0j Mu0x Mu5k Mu6z Mu73 Muc6 Muc9 Mucs Mujs Mul4 Mulb Mun9 Munj Munm
  Munw Muoq Muzp Mvat Mvb3 Mvc5 Mvcr Mvcz Mvd9 Mvdd Mveh Mvel Mvf2 Mvf7 Mvfk Mvgb Mvgq Mvgy Mvil
  Mvj0 Mvj4 X16 Mw V1 M1a V1f M9hu V1 Mgg1 S2.6x7 V5 X1 V2e X2 V2 Mw.9ll Mw.9lm V2 M9l4.9l6 V2n
  M9mb.9mw X5 V17 X1 S2.-6cx M3hm M3cy S2.-689 S3.-6d0 S6.-68a M3dm S3.-6d7 M3dt Sa.-6d8 Sl.-6b2
  I1 S2.-6dt S2.-68w M3ik M3im M3ir M3iv M3ix M3do M3j1 M3j3 S2.-6dw M3ds S2.-6du M3dz M3e1
  S5.-6dp M3ea M3ee M3eo M3ev M3f0 S2.-68h S3.-6ct S2.-6bn M3go S2.-6bd M3h0 M3ha M3hd X1 V2 Mfeo
  Mfik Mfex Mh5n Mfey Mffx Mfez Mn5e Mfh5 Mffd Mfep Mhm1 Mh80 Mfju V1y Xa Vg M14.3cw.15 M14.3cy.15
  M14.3cz.15 M14.3d1.15 M14.3d2.15 M14.3d3.15 M14.3d5.15 M14.3d7.15 M14.3d8.15 M14.3da.15
  M14.3db.15 M14.3dc.15 M14.3dd.15 M14.3de.15 M14.xz4.15 M14.yvs.15 M14.zc4.15 M14.108s.15
  M14.10p4.15 M14.115g.15 M14.1224.15 M14.12ys.15 M14.13f4.15 M14.14bs.15 M14.14s4.15 M14.158g.15
  M14.15os.15 M14.1654.15 M14.13p8.15 M14.1350.13ic.15 M14.1350.16f8.15 X1 M14.feo.15 M14.fik.15
  M14.fex.15 M14.h5n.15 M14.fis.15 M14.g31.15 M14.fer.15 M14.g2z.15 M14.fh9.15 M14.gg1.15
  M14.kco.15 M14.m7f.15 M14.ldg.15 M14.kdk.15 M14.ssx.15 M14.h7j.15 M14.k4l.15 M14.kkq.15
  M14.kcp.15 M14.ny6.15 M14.glp.15 M14.mm1.15 M14.rs1.15 M14.nz1.15 M14.gc4.15 M14.fkz.15
  M14.gos.15 M14.i1y.15 M14.nhf.15 M14.flt.15 M14.rt3.15 M14.ggk.15 M14.nzh.15 M14.fm9.15
  M14.pnu.15 M14.po3.15 Mgun Minw Mk1z Moen V8 M34.38.2t M1e.1d M1e.1e M1e.1f M1e.1g M1e.1h M1e.1i
  M1e.1j M1e.1k M1e.1l M1f.1c M1f.1d M1f.1e M1f.1f M1f.1g M1f.1h M3cw S2.-6lb S3.-6la M3d5 S2.-6l8
  S5.-6l7 Mxz4 Myvs Mzc4 M108s M10p4 M115g M1224 M12ys M13f4 M14bs M14s4 M158g M15os M1654
  M14c8.y5c M13p8.13dk M138w V1 Mfeo Mfik Mfex Mh5n Mfis Mg31 Mfer Mg2z Mfh9 Mgg1 Mkco Mm7f Mldg
  Mkdk Mssx Mh7j Mk4l Mkkq Mkcp Mny6 Mglp Mmm1 Mrs1 Mnz1 Mgc4 Mo2g Mn5j Mho3 Msix Mg16 Mghc Mlig
  Mu11 Mfm9 Mg49 Ml7n Mfey Mffx Mfez Mijq Mgkz Mgfv Mi3b Mi1y Mnhf Mflt Mrt3 Mggk Mhlo M1f.1i
  M1f.1j M1f.1k M1f.1l M1g.1c M1g.1d M1g.1e M1g.1f M1g.1g M1g.1h M1g.1i M1g.1j M1g.1k M1g.1l
  M1h.1c M1d.kco M1e.kco M1f.kco M1g.kco M1h.kco M1i.kco M1j.kco M1k.kco M1l.kco M1d.1c.kco
  M1d.1d.kco M1d.1e.kco M2w.2v M2t.36.2v M2t.3a M30.38.2s M9lu M9lw M9ly M9m0 S2.-fe M9m5 M9m7
  M9m9 M9mb M9md M9mf M9mh M9mj M9ml M9mn M9mp M9ms M9mu M9mw S6.-ey M9n6 M9n9 M9nc M9nf S5.-eo
  M9no M9nq S6.-el S4.-ek Mfl0.gp8 M9lu.9n5.9oc.9mw M9lu.9nv.9n9.9lt M9lu.9o3.9ne.9lu M9lu.9oc.9nv
  M9lw.9mz.9o3.9m8 M9lw.9o3.9mp M9ly.9m1.9o3 M9m0.9mh.9m7.9oc.9mx M9m0.9oc.9m3.9oc M9m2.9o3.9mh
  M9m2.9oc.9nk M9m3.9lw.9nu M9m3.9nt.9mr.9mw M9m3.9nx.9nu.9oc M9m4.9nx.9o3 M9m4.9o3.9ni M9m6.9m4
  M9m6.9mz.9oc M9m5.9np.9nu.9oc M9m6.9nv.9mo.9oc M9m5.9nx M9m5.9nx.9m8.9nt.9nk
  M9m5.9nx.9nl.9oc.9mw.9nv M9m5.9nx.9nz.9mr.9mw M9m8.9nt.9nk M9m8.9nt.9nk.9mw.9o3
  M9m7.9nv.9mk.9lw.9nx M9m7.9nx.9oc.9n1 M9m9.9oc.9mh M9mb.9nv.9my M9mb.9oc.9nh M9md.9lw.9m7.9nv
  M9md.9o3.9mp.9oc.9nk M9mf.9nu.9o3.9m8 M9mj.9o3.9mp M9mj.9o3.9mw M9mo.9oc.9mh M9mv.9mf M9mx.9nv
  M9mw.9o3 M9my.9n2 M9n2.9mr.9mw M9n3.9lw.9ms M9n5.9oc.9mj.9o3.9mw M9n5.9oc.9ms M9n4.9oc.9nw.9nv
  M9n8.9lu.9mh.9mw.9nv M9n8.9m7.9nv M9n8.9mb M9n7.9nv M9n9.9lt.9nt.9mr.9mx M9n9.9lv.9oc.9mw
  M9na.9mr.9mf.9lz.9nv M9n9.9nt.9o3 M9nc.9m7.9mn.9oc.9nv M9ne.9ml M9ne.9mz.9n6 M9nc.9nv.9ms
  M9ne.9o3.9mh M9ne.9oc.9mg M9nd.9oc.9mn M9nh.9lw.9o3.9mw M9ng.9nv.9mw M9nf.9o3 M9nh.9o3.9mx
  M9nf.9oc.9nv M9nf.9oc.9o3 M9ni.9lw.9m7.9nx M9ni.9lw.9nv M9ni.9mr.9n3 M9ni.9nv.9m7
  M9ni.9o3.9mf.9nr.9o3 M9nj.9m7.9nx.9o3 M9nj.9nu M9nj.9nu.9n4.9oc.9nv M9nl.9m4 M9nl.9m4.9mw.9o3
  M9nl.9oc.9mw.9nv M9no.9oc.9mx M9no.9oc.9nv M9nq.9lu.9o3 M9nu.9mr.9mw.9nv M9nu.9nt M9nv.9n8.9oc
  M9nv.9oc.9na.9nv M9nw.9nk M9nw.9o3.9mw.9ma.9o3 M9nz.9mr.9mw M1c.m9l M1d.m9l M1e.m9l M1f.m9l
  M1g.m9l M1h.m9l M1i.m9l M1j.m9l M1k.m9l M1l.m9l M1d.1c.m9l M1d.1d.m9l M1d.1e.m9l M1d.1f.m9l
  M1d.1g.m9l M1d.1h.m9l M1d.1i.m9l M1d.1j.m9l M1d.1k.m9l M1d.1l.m9l M1e.1c.m9l M1e.1d.m9l
  M1e.1e.m9l M1e.1f.m9l M1e.1g.m9l M2w.34.2p M2s.2p M2p.39 M2q.2p.36 M33.3a M34.2r M2s.31
  M2s.31.1e M2s.31.1f M2x.39 Minn.jdc Mk6l.gp8 Mhlz.l7n Mk5q.lh7 Mkkq.irz.fmi.ny6 M34.2p M32.2p
  Mqk.2p M31.2p M2z.2p M2z.2q M31.2q M2v.2q M2r.2p.30 M2z.2r.2p.30 M34.2u M32.2u Mqk.2u Mqk.2v
  M31.2v M2z.2v M2w.3e M2z.2w.3e M31.2w.3e M2v.2w.3e M38.2w.3e Mqk.30 M31.30 M2s.30 M2z.30 M2u.31
  M32.31 Mqk.31 M31.31 M2r.31 M2z.31 M31.31.1e M2r.31.1e M31.1e M2z.31.1e M31.31.1f M2r.31.1f
  M31.1f M2z.31.1f M31.6qd.37 M31.6qd.37.1e M34.2p M2z.34.2p M31.34.2p M2v.34.2p M36.2p.2s
  M36.2p.2s.6qd.37 M36.2p.2s.6qd.37.1e M34.37 M32.37 Mqk.37 M31.37 M34.3a M32.3a Mqk.3a M31.3a
  M2z.3a M31.3a M34.3b M32.3b Mqk.3b M31.3b M2z.3b M31.3b M2z.qx M31.qx X1 M2q.35 M2r.2r M2r.2s
  M2r.6qd.2z.2v X1 M2s.2q M2v.3d M2w.2p M2w.34 M2x.32 M2z.2z M2z.31 M2z.38 M30.31 M30.32 M30.33.2v
  M30.3c M31.2q M31.2x.30 M31.33.30 M34.2w X1 M34.34.31 M34.36 M37.36 M37.3a M3b.2q M3a.6qd.31
  M2p.6qd.31 M1d.k4l M1e.k4l M1f.k4l M1g.k4l M1h.k4l M1i.k4l M1j.k4l M1k.k4l M1l.k4l M1d.1c.k4l
  M1d.1d.k4l M1d.1e.k4l M1d.1f.k4l M1d.1g.k4l M1d.1h.k4l M1d.1i.k4l M1d.1j.k4l M1d.1k.k4l
  M1d.1l.k4l M1e.1c.k4l M1e.1d.k4l M1e.1e.k4l M1e.1f.k4l M1e.1g.k4l M1e.1h.k4l M1e.1i.k4l
  M1e.1j.k4l M1e.1k.k4l M1e.1l.k4l M1f.1c.k4l M1f.1d.k4l M2v.2p.30 Vm8d X3 V1j X9 V9o Xk A1a Vi As
  Mui Muk V2i X8 Vy Ae V2 A1q Mx2n V8 A4 M5tl Aa V3 Mx3g V1 Mh1 V2 A4 V2 Ak Mh2 Mgs Mgx Mh8 Mh6 V1
  Mim Mhz Mil Mxub Ag Mx3o Mhu M5u6 A4 Mh0 Ag Mbf Xk M37 M2r M2u M35 Mx6e V2 M87 M9f V1f X3 Va X6
  V1k X8 V1y X8 Vc X6 V38 Xb Vu X3 V26 X1 Vb X4 Vx X1 V1j X9 Ve X2 Va X2 V2v Xo Vs Xa V6 X2 V6 X2
  V6 X9 V7 X1 V7 X1 V18 Mx0n Mxtj Mh7 Mxua V9 Mi5 V2 X4 S28.-tzk V1a X2 Va X6 V8mc Xc Vn X4 V1d
  X6is Mrpk Mkc4 Ms7e Mrt4 Mlw1 Mfg2 Mgkl C2.vj0 Mhn5 Mssx Mgw7 Mhmw Mjcm Mne1 Mp6t Mqin Mqt6 Mr20
  Msjz Mkxu Mljv Mmah Mmvy Mq4d Msq2 Muep Mfia Mghh Ml50 Mmjf Mqi5 Mv8e Mifk Mm3v Mqfh Mr50 Mjih
  Mpnc Mqvz Miq2 Mkd3 Mlm2 Mmpo Mslq Mfpi Mg53 Mgda Mjwk Ml3n Mmj4 Mnhj Mpa9 Mqh2 Mqjg Ms1b Mtv6
  Mupb Mv7e Mnt8 Mnzz Motc Mq15 Mt1g Mvb3 Mrfa Mhjz Miro Mokg Mpdq Mmle Mnuy Mrsy Mttj Mhjs Mi8y
  Mkyb Mlp6 Mlxr Moq7 Moxj Mtor Mgcy Mpe3 Mg64 Mg5o Mo4c Mou6 Mq29 Mtpx Mrk0 Mjin Mkxu Mrge Mfg9
  Mi5j Miz6 Mmtj Mn74 Mgev Mnwb Mfr3 Miw9 Mff1 Mlho Mk1k Mopu Mgjn Mhge Mni9 Mq4p Mre2 Mla2 Msds
  Mlfs Mjjy Mput Mjog Mn6t Mfji Mg2x Mg5l Mkn5 Moo7 Mprj Mrf6 Mssv Mgdx Mgn6 Mho3 Mir0 Mk3p Mm4e
  Mnxm Mtkd Mui2 Mvbr Mvda Mgbf Mkau Ml87 Msbm Mino Mj9s Mjcw Mjve Mlyb Mmdl Mn0p Mo22 Movo Mpdb
  Ms9y Mq9a Msgz Mt3e Mg7r Mgbn Mgql Mma0 Mr0i Mre2 Miq1 Miyd Mjnf Ml9q Moji Mmt1 Mfl0 Mh6h Mi5j
  Miii Mizg Mmuq Mmzt Mp7e Mpc6 Msvo Mtti Mtvs Mu1k Mfpn Mo1a Mss4 Mtrs Mj4x Mfie Mfyy Mi5q Mi7z
  Mk2h Mkxu Mmha Mncy Mq9o Msjg Mvil Mk94 Mtny Mgax Mkfv Mkj7 Mlkx Mluk Mmx5 Mn6h Mnsb Mopc Mu3i
  Mg31 Mje6 Mtq0 Mfu3 Mie1 Mlpm Msa2 Mivf Mj7o Mkk7 Mmtj Mtqe Mg89 Mglr Mi91 Mk5v Mkem Mko8 Mlid
  Mmx2 Mnaa Mp6h Mr0v Mr1d Msss Mtsy Mgfz Mlve Mgm5 Mmhc Mn14 Mqgq Mtr7 Muvr Mvbz Mkgn Mlor Mpns
  Mo97 Mobk Molu Mmo0 Mm8p Mriw Mfk0 Mpx2 Mg8q Mg7b Mip2 Mjir Monq Mi2t Mljy Mkac Msaj Mqx8 Mtot
  Mr63 Miqb Mg1s Mgxs V2 Mhga V1 Mk8k V2 Mg66 Mmqy Mngq Mny4 Mnz2 Mnz9 Mo0f Mtw6 Mon2 Mp8d V1 Mqhe
  V1 Mrg8 V2 Mshk Msn1 V3 Mu7j Mu7w Mu94 Mv5g Msm6 Mtrr Mfqm Mfzb Mg25 Mgcp Mgdg Mggh Mgwt Mgzq
  Mh2g Mhfk Mhig Mi90 Mi9a Mj2s Mj8o Mj9q Mjci Mk0f Mk4i Mk9d Mkn9 Mlmf Mlqy Mlya Mmem Mmjv Mmxu
  Mntd Mny6 Mnyh Mnyg Mnyo Mnyu Mnz1 S2.-pfp Mo5c Mo75 Mog0 Movo Mow9 Moxt Mp6a Mpad Mpnx C2.prt
  Mq53 Mr2o Mr6e Mrgh Mri1 Mrtf Mruw Msdy Mshk Mtsz Mu0v Mu2j Mj1x M36cu Mpp4 X2 Mffq Mg51 Mg2w
  Mfpc Mg1x Mg3k Mgcn Mge2 Mgwt Mgut Mgwp Mgyq Mhga Mhir Mhms Mhn8 Mhuq Mi08 Miqa Miqh Miuh Miwd
  Mj4o Mj7y Mj60 Mj9q Mj8g Mjci Mjec Mjpg Mjrw Mjte Mk0m Mk8k Mkd3 Mkd7 Mkeu Ml89 Mla2 Mlkx Mlwb
  Mlvv Mlya Mm5a Mmem Mnmv Mmk5 Mmnj Mmqy Mn01 Mn46 Mn5n Mnbx Mnbz Mngq Mnh7 Mnhw Mnka Mnk0 Mnv0
  Mo8h Mog0 Mol7 Morf Movo Mp4u Mpad Mpxu Mq27 Mqrd Mr41 Mr5y Mr6e Mren Mrg8 Mrez Mrgh Mrge Mrfx
  Mri1 Mrka Mruw Msag Msj6 Msrd Msxi Mtq4 Mtsz Mtw6 Mtzv Mu0v Mu17 Mu2j Mumq Mvj0 M313e M3138
  M33dh Mbrx Mcns Mcop M39e1 M3bgw M3i6r Mvgj Mvim X12 M2u.2u M2u.2x M2u.30 M2u.2u.2x M2u.2u.30
  C2.37.38 Xc M12s.12u M12s.12d M12s.12j M132.12u M12s.12l X5 M15l.14k V1 M16a.14n M15u M15c
  S2.-1cgf S3.-1cg9 M160 M162 M17 M161.14x M161.14y M161.14s.14x M161.14s.14y M15c.14n M15c.14o
  M15c.14s M15d.14s M15e.14s M15f.14s M15g.14s M15h.14s M15i.14s X1 M15k.14s M15l.14s M15m.14s
  M15n.14s M15o.14s X1 M15q.14s X1 M15s.14s M15t.14s X1 M15v.14s M15w.14s X1 M15y.14s M15z.14s
  M160.14s M161.14s M162.14s M15h.14p M15d.14v M15n.14v M15w.14v M15c.15o C2.19t C4.1a3 C4.1a6
  C4.1a8 C4.1a2 C4.1a7 C4.1a1 C4.1b8 C4.1ba C4.1ac C4.1ab C4.1ae C4.1af C2.1al C2.1ak C2.1am
  C2.1ag C2.1aw C2.1ap C4.1bd C4.1bj C4.1bn C4.1bl C2.1bu C4.1bv C2.1c0 C4.1c1 C4.1by C2.1ci
  C2.1cj Vx C4.1bh C2.1c7 C2.1c6 C2.1c8 M1c7.19w C2.1cb C2.1c5 C2.1c9 C4.1cg C2.18p C2.17q.17r
  C2.17q.1cl C2.17q.18o C2.17q.1c7 C2.17q.1c6 C2.17q.1c8 C3.17q.1cg C3.17q.18p C4.1cc M17q.17w
  M17q.17x M17q.18l M17q.18p M17q.18q M17s.17w M17s.17x M17s.17y M17s.18l M17s.18p M17s.18q
  M17u.17w M17u.17x M17u.17y M17u.18l M17u.18p M17u.18q M17v.17w M17v.18l M17v.18p M17v.18q
  M17w.17x M17w.18l M17x.17w M17x.18l M17y.17w M17y.17x M17y.18l M183.17w M183.17x M183.17y
  M183.18l M185.17x M185.18l M186.17w M186.17x M186.17y M186.18l M187.17x M187.18l M188.18l
  M189.17w M189.18l M18a.17w M18a.18l M18h.17w M18h.17x M18h.17y M18h.18l M18h.18p M18h.18q
  M18i.17x M18i.18l M18i.18p M18i.18q M18j.17r M18j.17w M18j.17x M18j.17y M18j.18k M18j.18l
  M18j.18p M18j.18q M18k.17w M18k.17x M18k.17y M18k.18l M18k.18p M18k.18q M18l.17w M18l.17x
  M18l.17y M18l.18l M18l.18p M18l.18q M18m.17w M18m.17x M18m.17y M18m.18l M18m.18p M18m.18q
  M18n.17w M18n.18l M18n.18p M18n.18q M18q.17w M18q.17x M18q.17y M18q.18l M18q.18p M18q.18q
  M180.19s M181.19s M18p.19s Mw.18s.18x Mw.18t.18x Mw.18u.18x Mw.18v.18x Mw.18w.18x Mw.18x.19s
  M17q.181 M17q.182 M17q.18l M17q.18m M17q.18p M17q.18q M17s.181 M17s.182 M17s.18l M17s.18m
  M17s.18p M17s.18q M17u.181 M17u.182 M17u.18l M17u.18m M17u.18p M17u.18q M17v.181 M17v.182
  M17v.18l M17v.18m M17v.18p M17v.18q M18h.18p M18h.18q M18i.18p M18i.18q M18j.17r M18j.18k
  M18j.18l M18j.18p M18j.18q M18k.18l M18k.18p M18k.18q M18l.17r M18l.18l M18m.181 M18m.182
  M18m.18l M18m.18m M18m.18p M18m.18q M18p.19s M18q.181 M18q.182 M18q.18l M18q.18m M18q.18p
  M18q.18q M17q.17w M17q.17x M17q.17y M17q.18l M17q.18n M17s.17w M17s.17x M17s.17y M17s.18l
  M17s.18n M17u.17w M17u.17x M17u.17y M17u.18l M17u.18n M17v.18l M17w.17x M17w.18l M17x.17w
  M17x.18l M17y.17w M17y.18l M183.17w M183.17x M183.17y M183.18l M185.17x M185.17y M185.18l
  M186.17w M186.17x M186.17y M186.18l M187.17x M188.18l M189.17w M189.18l M18a.17w M18a.18l
  M18h.17w M18h.17x M18h.17y M18h.18l M18i.17x M18i.18l M18j.17w M18j.17x M18j.17y M18j.18k
  M18j.18l M18k.17w M18k.17x M18k.17y M18k.18l M18k.18n M18l.17w M18l.17x M18l.17y M18l.18l
  M18m.17w M18m.17x M18m.17y M18m.18l M18m.18n M18n.17w M18n.18l M18n.19s M18q.17w M18q.17x
  M18q.17y M18q.18l M18q.18n M17q.18l M17q.18n M17s.18l M17s.18n M17u.18l M17u.18n M17v.18l
  M17v.18n M183.18l M183.18n M184.18l M184.18n M18j.18k M18j.18l M18k.18l M18m.18l M18m.18n
  M18q.18l M18q.18n M18g.18u.18x M18g.18v.18x M18g.18w.18x M187.18p M187.18q M189.18p M189.18q
  M18a.18p M18a.18q M183.18p M183.18q M184.18p M184.18q M17x.18p M17x.18q M17w.18p M17w.18q
  M17y.18p M17y.18q M185.18p M185.18q M186.18p M186.18q M184.17w M184.17x M184.17y M184.18l
  M184.181 M183.181 M185.181 M186.181 M187.18p M187.18q M189.18p M189.18q M18a.18p M18a.18q
  M183.18p M183.18q M184.18p M184.18q M17x.18p M17x.18q M17w.18p M17w.18q M17y.18p M17y.18q
  M185.18p M185.18q M186.18p M186.18q M184.17w M184.17x M184.17y M184.18l M184.181 M183.181
  M185.181 M186.181 M184.17w M184.17x M184.17y M184.18l M183.18n M184.18n M187.18l M183.17w
  M183.17x M183.17y M184.17w M184.17x M184.17y M187.18l M188.18l C2.17r.18r Vi M17u.17w.18l
  C2.17u.17x.17w M17u.17x.18l M17u.17y.18l M17u.18l.17w M17u.18l.17x M17u.18l.17y C2.17w.18l.17x
  M17x.18l.18q M17x.18l.18p M183.17x.17w M183.17w.17x M183.17w.18p C2.183.18l.17x M183.18l.17w
  C2.183.18l.18l C2.185.17x.17x M185.18l.18l C2.184.17x.18l M184.17w.18q C2.184.18l.17y
  C2.184.18l.18l M186.17x.18p C2.186.17y.18l C2.187.18l.17x M187.18l.18l M187.18l.18q M189.17w.18l
  C2.189.18l.18l M189.18l.18p M18a.18l.18l M18a.18l.18q M18a.18l.18p C2.18h.17y.18l M18i.18l.17x
  M18i.18l.18l M18k.17x.18l M18k.17x.18q M18k.17x.18p C2.18k.17w.17w C2.18k.17y.18l C2.18k.18l.17x
  M18l.17x.17w M18l.17x.18l M18l.17x.18q M18l.17w.17x M18l.17w.18l M18l.17y.17w M18l.17y.18l V2
  M18l.17w.17y M18n.18l.17w M18n.18l.18l M18m.17x.18l M18m.17x.18p C2.18m.17w.18l M18m.17w.18p
  M18m.18l.18q M18m.18l.18p C2.18q.18l.18l M17s.17y.18q M17u.17w.18q M17u.17w.18p M17u.17y.18q
  M17u.17y.18p M17u.18l.18q M17u.18l.18p M17w.18l.18q M17w.17x.18p M17w.18l.18p M183.17y.18p
  M185.17x.18q M184.17x.18q M186.17x.18q M18k.17w.18q M18k.18l.18q M18q.17x.18q M18q.17w.18q
  M18q.18l.18q M18l.18l.18q M18i.18l.18q M18m.17x.18q M18i.18l.17x M18k.17x.18l M189.18l.18q
  M18j.18l.18q M18m.17w.17x M18l.17y.18q M18k.17w.18l M18j.18l.18l M18k.17w.18l M18m.17w.17x
  M17w.17x.18q M17x.17w.18q M18l.17w.18q M18h.18l.18q M17s.17x.18q M18j.18l.18l M189.17w.18l
  M185.18l.18l M183.17y.18q M18m.17w.18q V8 Xw M185.18k.1ci M18i.18k.1ci M17r.18k.18k.18n
  M17r.18j.17s.181 M18l.17x.18l.17z M185.18k.189.18l M181.183.18o.18k M189.18k.18q.18n
  M18o.183.18k.18l M185.18k.18p M185.18k.18p.w.17r.18k.18k.18n.w.189.18k.18q.18n.w.18o.183.18k.18l
  M17w.18k.w.17w.18k.17r.18k.18n M181.1cc.17r.18k V3 Ig M18 M9hd X1 S2.-1e55 Mx M1r S2.-14ox X7 Vg
  X1 M6c4 M6c3 C2.2n S2.-1e6l M3f M3h S2.-14px S2.-14q3 S2.-14qb S2.-14qf S4.-14qd V2 M2j M2l
  C4.w.lh C3.2n M18 M9hd X2 M1n M1m M1r Mx M6c4 S2.-1e7l M3f M3h S2.-14qx Mz M12 S2.-1e7r M19 M1o
  M1q M1p X1 M2k S2.-1e85 M1s X4 Mw.18r M18g.18r Mw.18s V1 Mw.18t X1 Mw.18u M18g.18u Mw.18v
  M18g.18v Mw.18w M18g.18w Mw.18x M18g.18x Mw.18y M18g.18y S2.-1d27 S2.-1d28 S2.-1d29 S2.-1d2a
  S2.-1d2b C3.17q C2.17r C4.17s C2.17t C4.17u C4.17v C4.17w C4.17x C4.17y C2.17z C2.180 C2.181
  C2.182 C4.183 C4.184 C4.185 C4.186 C4.187 C4.188 C4.189 C4.18a C4.18h C4.18i C4.18j C4.18k
  C4.18l C4.18m C4.18n C2.18o C2.18p C4.18q C2.18k.17m C2.18k.17n C2.18k.17p C2.18k.17r X2 I1 X1
  Sw.-1ecg Sq.-1ebk S10.-1ecg S2.-168q M1a S2.-14ye M9hd M9ob M9o2 M9lt M9lv M9lx M9lz M9m1 M9nn
  M9np M9nr M9mr M9oc M9lu M9lw M9ly M9m0 S2.-14uj M9m5 M9m7 M9m9 M9mb M9md M9mf M9mh M9mj M9ml
  M9mn M9mp M9ms M9mu M9mw S6.-14u3 M9n6 M9n9 M9nc M9nf S5.-14tt M9no M9nq S6.-14tq M9nz M9o3
  S2.-14w5 I1 S2.-1b4x M3hm M3cy S2.-1b09 S3.-1b50 S6.-1b0a M3dm S3.-1b57 M3dt Sa.-1b58 X3
  S6.-1b35 X2 S6.-1b37 X2 S6.-1b39 X2 S3.-1b3b X3 S2.-1ef2 M4s Mw.lg M4m M4l M6g9 X1 M7b6 S4.-17x5
  M7fk M7gr Xh Vc X1 Vq X1 Vj X1 V2 X1 Vf X2 Ve Xy V3f X5 V3 X4 V19 X3 V2g X1 Vd X3 V1 X1b V1a X3m
  Vt X3 V1d Xf Vs X4 V10 X9 Vu X5 V17 X5 Vu X1 V11 X4 Ve X16 S14.14 V3a X2 Va X6 S10.14 X4 V10 X4
  V14 X8 V1g Xb V1 Sb.13 X1 Sf.13 X1 S7.13 X1 S2.13 X1 Vb X1 Vf X1 V7 X1 V2 X3 V1g Xc V8n X9 Vm Xa
  V8 Xo V1 S2.-1fht M6e Mih Mgj X1 Mir Mxuu Mit Mis S2.-1flh M5u9 Mgo Mgu Mix Mh0 Mgy Mgw Mij M87
  Mik Mh3 Mhw S2.-1fjj Mh8 M2mmc Mx3i Mha M2mmd Mi6 M2mme M6w S2.-1fl9 M35 Mhm M2mmg S2.-1fl7 Mhs
  Miw Miu Mxuv Miv Mi0 M8s1 X1 Mi7 S2.-1fki Mig S3.-1fqu M2mmi M2mn2 X1x V6 X2 V1 X1 V18 X1 V2 X3
  V1 X2 Vn X1 V20 X8 V9 X1c Vj X1 V2 X5 Vx X3 Vr X5 Vr X12 V1k X4 Vk X2 V1e X1 V2 X5 V8 X1 V3 X1
  Vt X2 V3 X4 Va X7 V9 X7 V1s Xw V13 X4 Vc X9 V1i X3 Vt X2 Vr X5 Vq X7 V4 Xc V7 X28 V21 X1j S1f.1s
  Xd V1f X7 V1a X8 Va X6 Vg Sm.w X3 Vt X8 V2 X5s Vv X1 V16 X1 V3 X2 V2 Xg V6 X8 V9 Xx V1a X8 V16
  Xm Vq X12 Vs Xk Vn X9 V26 X4 V10 X9 V1q X1 V5 Xd Vp X7 Va X6 V1h X1 Vi X8 V13 X9 V2o X1 Vk Xb Vi
  X1 V1b X1q V7 X1 V1 X1 V4 X1 Vf X1 Vb X6 V1n X5 Va X6 V4 X1 V8 X2 V2 X2 Vm X1 V7 X1 V2 X1 V5 X1
  Va X2 V2 X2 V3 X2 V1 X6 V1 X5 V7 X2 V7 X3 V5 Xb Va X1 V1 X2 V1 X1 V12 X1 Va X1 V1 X2 V1 X1 V4 X1
  Va X1 V2 X8 V2 Xt V2k X1 V5 Xu V20 X8 Va X4m V1i X2 V12 Xy V1x Xb Va X6 Vd Xj V1m X6 Va X6 Vk Xs
  Vr X2 Vf X4 Vn X55 V1o X2s Sw.w V1f Xc V8 X2 V1 X2 V8 X1 V2 X1 Vu X1 V2 X2 Vc X9 Va X1y V8 X2
  V1a X2 Vb Xr V20 X8 V2b Xd V21 X7 Va X2e V8 X2g Vy Xe Va X6 V9 X1 V19 X1 Ve Xa Vt X3 Vw X2 Vm X1
  Ve X21 V7 X1 V2 X1 V18 X3 V1 X1 V2 X1 V9 X8 Va X6 V6 X1 V2 X1 V11 X1 V2 X1 V6 X7 Va X6 V18 X4 Va
  X6u Vp X7 Vh X1 V15 X3 Vt X2d V1 Xf V1e Xd Vpn X2u V33 X1 V5 Xb V5g X218 V2r Xd Vts Xg Vm Xa
  V32z X5 Vg7 X5a1 V1m X1c6 Vft X7 Vv X1 Va X4 V29 X1 Va X6 Vu X2 V6 Xa V1y Xa Va X1 V7 X1 Vl X5
  Vj Xc0 V1m X5i Sw.w V1n X5 Sp.r X2 Vp X18 V23 X4 V1l X7 Vh X1s V5 Xb V7 X9 V5p2 X15 Vw X2p V37
  X6pp V4 X1 V7 X1 V2 X1 V83 Xf V1 Xt V3 X2 V1 Xe V4 X8 Vb0 X1s4 V2z X5 Vd X3 V9 X7 Va X2 V4 I4
  X318 V5y Sq.-2iyd Sa.-2j0g V3 X3 Vc4 X6 Vn Xf Vh Xf V1a X2 Vn X9 V38 X1o V6u Xa V13 X2 V1h
  M2jx3.2jxh M2jx4.2jxh M2jx4.2jxh.2jxq M2jx4.2jxh.2jxr M2jx4.2jxh.2jxs M2jx4.2jxh.2jxt
  M2jx4.2jxh.2jxu Ve I8 V1s M2jzt.2jxh M2jzu.2jxh M2jzt.2jxh.2jxq M2jzu.2jxh.2jxq M2jzt.2jxh.2jxr
  M2jzu.2jxh.2jxr V16 Xl V1y X3e Vk Xc Vk Xc V2f X9 Vp X3r Sq.-2kdb Sq.-2ke1 Sq.-2ker S7.-2kfh X1
  Si.-2kfh Sq.-2kg7 Sq.-2kgx M2p X1 S2.-2khn X2 M2v X2 S2.-2khn X2 S4.-2khn X1 S8.-2khn S4.-2kid
  X1 M2u X1 S7.-2kid X1 Sb.-2kid Sq.-2kj3 Sq.-2kjt S2.-2kkj X1 S4.-2kkj X2 S8.-2kkj X1 S7.-2kkj X1
  Sq.-2kl9 S2.-2klz X1 S4.-2klz X1 S5.-2klz X1 M33 X3 S7.-2klz X1 Sq.-2kmp Sq.-2knf Sq.-2ko5
  Sq.-2kov Sq.-2kpl Sq.-2kqb Sq.-2kr1 Sq.-2krr Sq.-2ksh Sq.-2kt7 Sq.-2ktx Sq.-2kun Sq.-2kvd M8h
  Mfr X2 Sh.-2k8n Mqg S7.-2k8n M6pz Sh.-2k9d C2.qr S6.-2k9d M6pu Mqd Mqg Mqi Mqu Mqp Mqo Sh.-2ka9
  Mqg S7.-2ka9 M6pz Sh.-2kaz C2.qr S6.-2kaz M6pu Mqd Mqg Mqi Mqu Mqp Mqo Sh.-2kbv Mqg S7.-2kbv
  M6pz Sh.-2kcl C2.qr S6.-2kcl M6pu Mqd Mqg Mqi Mqu Mqp Mqo Sh.-2kdh Mqg S7.-2kdh M6pz Sh.-2ke7
  C2.qr S6.-2ke7 M6pu Mqd Mqg Mqi Mqu Mqp Mqo Sh.-2kf3 Mqg S7.-2kf3 M6pz Sh.-2kft C2.qr S6.-2kft
  M6pu Mqd Mqg Mqi Mqu Mqp Mqo C2.rh X2 Sa.-2l5q Sa.-2l60 Sa.-2l6a Sa.-2l6k Sa.-2l6u Vi4 Xf V5 X1
  Vf Xuo Vv X6 V6 X5x V7 X1 Vh X2 V7 X1 V2 X1 V5 X5 S9.-2m0w S3.-2m0v Sb.-2m0u Muj S2.-2m0r Mww9
  Myh Muu Muw Myx Mxb My7 S9.-2m1t S2.-2m1s S2.-2m1q Mu9 S6.-2m1o S2.-2m1n Mwh Muu Mut Mv3 Mx7
  Mwup Mxd Xx V1 X34 V19 X3 Ve X2 Va X4 V2 X8w Vv Xh V1m X5 V1 Xcw V16 X5y V17 X4 V1 X5c Vv X1 Vm
  X8 V2 X68 V7 X1 V4 X1 V2 X1 Vf X1 V5h X2 Vg X15 Sy.y V16 X4 Va X4 V2 Xlt V1w X24 V1p X5e
  S2.-2od5 M17w M17z X1 M18o M182 M17x M187 M18q S4.-2ocn M183 M189 M18h M185 M18i M181 M184
  S2.-2odn M17y M180 M186 M188 M18a M19q M1bu M1b5 M19r X1 M17s M17w X1 M18n X2 M17x X1 M18q
  S4.-2odj M183 M189 M18h M185 M18i X1 M184 S2.-2oej M17y X1 M186 X1 M18a X6 M17w X4 M17x X1 M18q
  X1 M18k X1 M18m M183 M189 X1 M185 M18i X1 M184 X2 M17y X1 M186 X1 M18a X1 M1bu X1 M19r X1 M17s
  M17w X1 M18n X2 M17x M187 M18q M18j X1 S2.-2ofb M183 M189 M18h M185 M18i X1 M184 S2.-2ogb M17y
  X1 M186 M188 M18a M19q X1 M1b5 X1 S2.-2ogp M17w M17z S2.-2ofx M182 M17x M187 M18q X1 S3.-2og7
  M183 M189 M18h M185 M18i M181 M184 S2.-2oh7 M17y M180 M186 M188 M18a X5 M17s M17w M17z X1 M18o
  M182 M17x M187 M18q X1 S3.-2oh3 M183 M189 M18h M185 M18i M181 M184 S2.-2oi3 M17y M180 M186 M188
  M18a X1g V2 X7i V18 X4 V2s Xc Vf X2 Vf X1 Vf X1 V11 Xb M1c.18 M1d.18 M1e.18 M1f.18 M1g.18 M1h.18
  M1i.18 M1j.18 M1k.18 M1l.18 V5 M14.2p.15 M14.2q.15 M14.2r.15 M14.2s.15 M14.2t.15 M14.2u.15
  M14.2v.15 M14.2w.15 M14.2x.15 M14.2y.15 M14.2z.15 M14.30.15 M14.31.15 M14.32.15 M14.33.15
  M14.34.15 M14.35.15 M14.36.15 M14.37.15 M14.38.15 M14.39.15 M14.3a.15 M14.3b.15 M14.3c.15
  M14.3d.15 M14.3e.15 M9hw.37.9hx M2r M36 M2r.2s M3b.3e V1 Sq.-2q4v M2w.3a M31.3a M37.2s M37.37
  M34.34.3a M3b.2r Vq M31.2r M31.2s M31.36 Vz M2s.2y Vt X1k Vq M9kr.9jf M9mb.9mb M9md Xd Mjez Mi1j
  Mgjw M9mv Mfik Mhlm Mr8j Mhm1 Mfj8 Mk68 Mmch Mk2h Mg99 Mivg Mg3x Mk34 Mg7x Moqq Mn4v Mrs9 Mhkg
  Mgmx Mlxw Mjh1 Mjmd Mfeo Mfex Msi2 Mijq Mffx Mgkz Mjk7 Mrxs Mjf7 Mo01 Mo6y Mglk Mlts Mkcp Mkco
  Mn5f Mgaa Mgxi Msp9 X4 M9hw.kdo.9hx M9hw.fex.9hx M9hw.fik.9hx M9hw.i2x.9hx M9hw.m9l.9hx
  M9hw.jf7.9hx M9hw.nh3.9hx M9hw.gd9.9hx M9hw.k0n.9hx X7 Mivr Mgkv Xe V6 X4a Vrd X3 Vh X3 Vd X3
  V62 X6 Vc X4 V1 Xf Vc X4 V1k X8 Va X6 V14 X8 Vu X2 Vc X4 V2 Xe V9 X13 V9k X8 Ve X2 Vd X3 Vb X3
  V1l X1 V1 X4 Vg X2 Vc X4 Va X7 V43 X1 V2k Sa.-2sao V1 Xsl Vwyo Xw V3dq X2 V4ge X2 V5rl Xf Vha
  X1wi Mfgd Mfg8 Mfgh M2tcy Mfog Mfqm Mfqz Mfsy Mfwa Mfx5 Mfzb Mfyn Mae6 M2ud6 Mg25 Mg2c Mg2s Mg3b
  M2u58 Maex Mg2v Mg3x M2u6j Mg47 Mg4k Mfkc Mg4s Mg51 M3ly7 Mg6t Mg77 Mafz Mg8r Mg92 Mgaa Mgaf
  Mahh Mgcn Mgcp Mgdg Mge2 S2.-3pr8 Mgev Mgg9 Mggh Mggq Mghf Mghp C3.ghr M2v58 Mm7k Mgju Mgkf
  M2vdv Mgkr Mgkx Mgli Mgpq Mgmw Mgnc Mgo8 Mgpu Mgs6 Mgsw Mgur Mgv7 C2.gw4 Mgwp Mgx7 Mgxf Mgxu
  Mh7a Mgzq Mh7b Mh1t Mh2s Mg7b Mhke Mhce Mhdg Mhe5 Mhaj Mhf6 Mhf5 Mhik M2x9g Mhki Mhkn Mhl2 Mhlm
  Mhlu Mhnm M2xm0 M2xnu Mhrg Mhsr Mht3 Mhqw Mhuu Maum Mav0 Mhzc C2.i0u M2y88 Mi4j Mi54 Mi5j Mi5v
  M2yhk Mi67 Mi6e Mitv Mi76 Mayp Mi8w Mi9a Mibk Mia5 M2z1g Mif7 M2z1i Mige Migb Migs S2.-3nog Mb3j
  Mikd Milk Mim5 Mind Mb4y M2zr7 Mb5o Mipc Mipf Mipi Miq2 M3pg2 Miri C2.3035 Mpoh C2.isi Mb7r
  M335k M3cgq Miua Miuj Mb8j Mivu Mix9 Mixj Miyh Mj29 Mbay Mba4 Mj2s M30t0 Mj47 Mj7s Mj7w Mj7y
  Mj7w Mj96 Mj9q Mjaq Mjac Mjan Mjby Mjci Mjcm Mjdc Mjdn Mjfh Mjht Mjis Mjm8 M31n0 Mjlp Mjjw Mjmw
  Mjnn Mjqc M31td Mjs2 Mjph Mjop Mbhq Mju1 Mjum Mjvh Mjuf Mbjg Mk0f Mk18 M32mi Mk4j Mkc8 Mk7d Mbo9
  Mk9d Mbns Mbms Mg42 Mg45 Mkcg Mk9o Mpf1 Mdeh Mkd3 Mkd7 Mkdd Mkf2 Mker M33cz Mbpl Mkje Mkg5 Mklu
  Mkn9 M33hp Mkni Mkkf Mkr8 Mbrx Mksi Mkv7 Mkx6 Ml2g M33xf Ml3v Mbvc Ml5t M34br Ml78 Mbwu Ml82
  Ml9b S2.-3l17 M34p9 M2yvf M34sa Mle6 M354s Mlhb Mlhp Mlev Mljq Mlku Mlmf Mlkx Mlm1 Mlmg Mlmt
  M357i Mlkk Mlrj Mlta Mc37 Mlvv Mlvr M35jl Mlq1 Mm0e M35ni M35ou Mm2u Mm61 Mm5a Mm57 Mc5y Mm6i
  Mm7x Mm7r Mm99 M2u5h Mmdh M368z Mmfw M36i3 Mmjs Mmk5 Mmkw M36yw Mmm8 Mmmt M3779 M37dg Mmt6 Mmtn
  Mcdo Mmud C2.ce0 Mmyv Mmzg Mn01 Mn0l Mn2i Mcgr Mn50 M386u Mn5q M389e Mn74 M2zrz Mnbk M38v5 M38vs
  M38zo Mcn0 Mcnc Mnhw M394j M394i M395l M396b S2.-3iuf Mnj3 Mnka Mcop Mnm3 Mcp2 Mcra M39r1 Mnri
  Mnt8 Mnv0 Mctf M3a5i Mnyu M3a8q M3a9x Mo0f Mo2z Mcvj Mo5c Mo5m Mo5r M3at8 C2.3b1j Moa6 Md1e
  M3b8r Mog6 Mog9 Md2f M3beo Monm Md5s Moo8 Moo3 Moow M3c06 Morn Md8h Mouf Mow2 Moxx Md9w M3ciw
  M3cjr Mdax M3cnt Mp6i M3cqm Mp79 Mpa2 Mpad M3d22 M3d43 Mpcw M3d7s Mpdc M33a7 Mded Mpf6 Mphf Mdfv
  Mpj2 Mhx1 M3dlz M3dmd M33bn M33bw Mpoh Mpok Msda Mdij Mpsh Mpsb Mpst Mgc3 Mptd Mptf Mptp Mpuu
  M3ebg Mput Mpwd Mpyb Mq0d Mpwj Mq0t Mq1z Mq53 Mpxv Mq16 Mq18 Mq1o M3eie M3eqz M3emt Mdnv Mq9d
  Mq9f Mqae M3g0a Mqck M3f3g Mdp9 Mdpd M3f75 M3ff6 Mdpn Mqj4 Mqjg Mqjr Mqjt Mqll Mqko Mqoe Mqn6
  Mqrd Mqp4 Mqqz Mqrq Mdsn Mqu9 Mqv5 Mdtl Mqxs Mqxv M3giv Mr13 Mr1a Mdv9 Mr22 Maez M3gz2 M3h46
  Mdz2 Mdzb Mrds Mrfx Mrka Mrpx M3hrc Mrsb Mrsx Mrvf Mrxz M3i9b M2upw Ms0b Mrzw Ms1c M2uvy Ms7o
  Msag M3jki M3jl9 Msk4 Msmp Msnl M3ju6 Msnv Msvs S2.-3dht Msxo Mt89 Mt91 M3ksa Mtjf Mej9 Mtkn
  M3l2v Meli Mts3 Miia Mtur M3ltx M3lzu Mepa Mepi Mu00 M3mdm Mer6 M3mhi C2.u17 Mu21 M3mpi Mu76
  Meur Mu95 Mucn Mude Muf2 Mez2 M3nsg Mumq Muv4 Mv0d Mf66 Mf71 Mv3b M3owe Mf7c M3oxx M3p5a M3p8x
  Mvcr Mf9y Mveh Mvem Mvet Mvf3 Mvfa Mvgb M3pxc X15u V3t7 X5 V6ju Xf62u I6o X47bk"

def charOf (code : Int) : Char := Char.ofNat code.toNat

/-- How many characters a run of the table covers. -/
def covered (run : Run) : Nat := if run.kind = 'M' then 1 else run.length

/-- What a run says about the character at some place in it. -/
def Run.status (run : Run) (code offset : Nat) : Status :=
  match run.kind, run.numbers with
  | 'V', _ => .valid
  | 'I', _ => .ignored
  | 'S', [_, distance] => .mapped [charOf (code + distance)]
  | 'A', _ => if offset % 2 = 0 then .mapped [charOf (code + 1)] else .valid
  | 'C', _ :: text | 'M', text => .mapped (text.map charOf)
  | _, _ => .disallowed

/-- What the table says about the character after a number of others. -/
def statusIn : List Run → (code offset : Nat) → Status
  | [], _, _ => .disallowed
  | run :: runs, code, offset =>
    if offset < covered run then run.status code offset
    else statusIn runs code (offset - covered run)

/-- What becomes of a character.  In ASCII only capital letters change. -/
def statusOf (c : Char) : Status :=
  if c.toNat < 0x80 then
    if c.isUpper then .mapped [c.toLower] else .valid
  else statusIn mappingRuns c.toNat (c.toNat - 0x80)

/-- The text that takes the place of a character, if it may occur. -/
def replacement? (c : Char) : Option (List Char) :=
  match statusOf c with
  | .valid => some [c]
  | .ignored => some []
  | .disallowed => none
  | .mapped text => some text

end BearerClient.Url.Idna
