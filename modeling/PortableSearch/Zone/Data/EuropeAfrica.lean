/-! Time-zone rules of Europe and Africa, from release 2025c of the tz database (links as 2025b
resolves them). Each item names the zones that share one rule set, then `=` and the text of their
rules that `Zone.Table.ofText` reads. -/

namespace PortableSearch.Zone.Data

/-- Rules of Europe and Africa, one item per rule set. -/
def europeAfrica : List String := [
    "Africa/Abidjan Africa/Timbuktu Iceland=-968,0;-u9rgl4.1;GMT0",
    "Africa/Accra=-52,1200d,0,1800,1800d,0;-s9p1ak.2 24aamk.1 1yhyo.2 cjvlc.1 69weo.2 ci0xc.1 69weo.2 " ++
      "ci0xc.1 69weo.2 ci0xc.1 69weo.2 cjvlc.1 69weo.2 ci0xc.1 69weo.2 ci0xc.1 69weo.2 ci0xc.1 69weo.2 " ++
      "cjvlc.1 69weo.2 ci0xc.1 69weo.2 ci0xc.1 69weo.2 ci0xc.1 69weo.2 cjvlc.1 69weo.2 ci0xc.1 69weo.2 " ++
      "ci0xc.1 69weo.2 ci0xc.1 69weo.2 cjvlc.1 69weo.2 ci0xc.1 69weo.2 ci0xc.1 69weo.2 ci0xc.1 69weo.2 " ++
      "683lc.1 cloeo.2 668xc.1 cloeo.2 1y8pc.3 21gem0.2 2fehm0.4 69vy0.2 ci1e0.4 69vy0.2 cjw20.4 " ++
      "69vy0.2 ci1e0.4 69vy0.2 ci1e0.4 69vy0.2 ci1e0.4 69vy0.2;GMT0",
    "Africa/Addis_Ababa=9288,9320,10800;-1g6t8i0.1 ymedb4.2;EAT-3",
    "Africa/Algiers=732,561,3600d,0,0,7200d,3600,3600d;-154gb8c.1 afgo4r.4 2qx1nl.2 5luo0.3 8y800.2 " ++
      "a4tc0.3 7vc00.2 auqo0.3 7idc0.2 b7pc0.3 6sg00.2 cyo00.3 7ayo0.2 53c00.3 9idxc0.2 3i040.4 51mw0.6 " ++
      "253uk0.5 9o2k0.6 92040.5 8l3s0.6 jutc0.4 4uy840.6 3rdzw0.4 46xc00.2 7x6o0.3 2xco40.7 8n180.6 " ++
      "7x9g0.5 9d440.6 kiqg0.4 9d440.7 9q2s0.4 9cyk0.6;CET-1",
    "Africa/Asmara=9332,9332,9320,10800;-1g6t8j8.1 afrs00.2 o6mlcc.3;EAT-3",
    "Africa/Asmera Africa/Nairobi=8836,9000,10800,9900,10800;-w6p5hg.1 aiwqjg.2 sg1a0.1 3nbte0.3 " ++
      "2wu1z0.2;EAT-3",
    "Africa/Bamako=-1920,0,-3600,0;-u9rfuo.1 bk956o.2 dqe840.1;GMT0",
    "Africa/Bangui=4460,3600;-u9rkrw.1;WAT-1",
    "Africa/Banjul=-3996,-3996,-3600,0;-u9re90.1 b38800.2 4m1rp0.3;GMT0",
    "Africa/Bissau=-3740,-3600,0;-u9rek0.1 wvoyo0.2;GMT0",
    "Africa/Blantyre=8400,8470,8460,7200;-ui1t5c.1 1j56m2.2 5qqlca.3;CAT-2",
    "Africa/Brazzaville=3668,3600;-u9rk5w.1;WAT-1",
    "Africa/Bujumbura=7048,7200;-15r1ers.1;CAT-2",
    "Africa/Cairo Egypt=7509,10800d,7200,10800d;-1054wgl.2 krj48l.1 40d80.2 a31g0.1 7x3w0.2 a4w40.1 " ++
      "aqyk0.2 80ys0.1 b07w0.2 7tk40.1 b07w0.2 8jhg0.1 a8fw0.2 60go40.1 7el80.2 awo40.1 7v980.2 awqw0.1 " ++
      "7tk40.2 b07w0.1 7tk40.2 ayd80.1 7tk40.2 ayd80.1 7tk40.2 ayd80.1 7tk40.2 b07w0.1 7tk40.2 ayd80.1 " ++
      "7tk40.2 ayd80.1 7ves0.2 awik0.1 7ves0.2 ayd80.1 7ves0.2 awik0.1 7ves0.2 awik0.1 7ves0.2 awik0.1 " ++
      "7ves0.2 ayd80.1 7ves0.2 awik0.1 7ves0.2 awik0.1 7ves0.2 awik0.1 7ves0.2 ayd80.1 7ves0.2 awik0.1 " ++
      "7ves0.2 awik0.1 7ves0.2 awik0.1 7ves0.2 ayd80.1 7ves0.2 awik0.1 7ves0.2 f9x80.1 3i040.2 eluk0.1 " ++
      "462s0.2 ayd80.1 7ves0.2 awik0.1 7ves0.2 awik0.1 7ves0.2 awik0.1 7ves0.2 ayd80.1 7ves0.2 b5rw0.1 " ++
      "7m5g0.2 awik0.1 7ves0.2 awik0.1 7ves0.2 ayd80.1 7ves0.2 awik0.1 7ves0.2 awik0.1 7ves0.2 aqvs0.3 " ++
      "7x3w0.2 asys0.3 7x3w0.2 asys0.3 7x3w0.2 asys0.3 7x3w0.2 b5xg0.3 7x3w0.2 asys0.3 7x3w0.2 asys0.3 " ++
      "7x3w0.2 asys0.3 7x3w0.2 asys0.3 7x3w0.2 b5xg0.3 7x3w0.2 asys0.3 7x3w0.2 asys0.3 7k580.2 b5xg0.3 " ++
      "6u7w0.2 bvus0.3 6h980.2 c8tg0.3 64ak0.2 cyqs0.3 5anw0.2 1jms0.1 12t80.2 1w22s0.1 25p80.2 1sw40.1 " ++
      "2vmk0.2 4hbhg0.1 9cyk0.2 9d440.1 9px80.2 905g0.1 9px80.2 905g0.1 9px80.2 9d440.1 9cyk0.2 9d440.1 " ++
      "9cyk0.2 9d440.1 9cyk0.2 9d440.1 9px80.2 905g0.1 9px80.2 9d440.1 9cyk0.2 9d440.1 9cyk0.2 9d440.1 " ++
      "9cyk0.2 9d440.1 9cyk0.2 9d440.1 9px80.2 905g0.1 9px80.2;EET-2EEST,M4.5.5/0,M10.5.4/24",
    "Africa/Casablanca=-1820,3600d,0,3600,0d;-tblt9g.2 di7nxg.1 3huk0.2 51k40.1 2znuk0.2 2dp9g0.1 " ++
      "776k0.2 8nt2s0.1 657w0.2 3ifxg0.1 3jp80.2 va040.1 4qak0.2 e1ms0.1 7pp80.2 cnms0.1 3afw0.2 " ++
      "2xi840.3 xqqk0.2 bp56s0.1 4qak0.2 e1ms0.1 45x80.2 d2g40.1 51ek0.2 c8tg0.1 64ak0.2 e1sc0.1 " ++
      "47uo0.2 1leo0.1 23xc0.2 asw00.1 3lmo0.2 1qyo0.1 40g00.2 7x6o0.1 4mo00.2 1stc0.1 4deo0.2 7x6o0.1 " ++
      "3ylc0.2 1stc0.1 51hc0.2 7x6o0.1 3lmo0.2 1stc0.1 5reo0.2 7k800.1 2vpc0.2 25s00.1 64dc0.2 7k800.1 " ++
      "2iqo0.2 1stc0.1 6uao0.3 9q000.4 1stc0.3 g7c00.4 25s00.3 g7c00.4 1stc0.3 g7c00.4 25s00.3 g7c00.4 " ++
      "1stc0.3 gkao0.4 1stc0.3 g7c00.4 25s00.3 g7c00.4 1stc0.3 gkao0.4 1stc0.3 g7c00.4 25s00.3 g7c00.4 " ++
      "1stc0.3 g7c00.4 25s00.3 g7c00.4 1stc0.3 gkao0.4 1stc0.3 g7c00.4 25s00.3 g7c00.4 1stc0.3 g7c00.4 " ++
      "25s00.3 g7c00.4 25s00.3 g7c00.4 1stc0.3 g7c00.4 25s00.3 g7c00.4 1stc0.3 gkao0.4 1stc0.3 g7c00.4 " ++
      "25s00.3 g7c00.4 1stc0.3 g7c00.4 25s00.3 g7c00.4 25s00.3 g7c00.4 1stc0.3 g7c00.4 25s00.3 g7c00.4 " ++
      "1stc0.3 gkao0.4 1stc0.3 g7c00.4 25s00.3 g7c00.4 1stc0.3 g7c00.4 25s00.3 g7c00.4 25s00.3 g7c00.4 " ++
      "1stc0.3 g7c00.4 25s00.3 g7c00.4 1stc0.3 gkao0.4 1stc0.3 g7c00.4 25s00.3 g7c00.4 1stc0.3 g7c00.4 " ++
      "25s00.3 g7c00.4 25s00.3 g7c00.4 1stc0.3 g7c00.4 25s00.3 g7c00.4 1stc0.3 gkao0.4 1stc0.3 g7c00.4 " ++
      "25s00.3 g7c00.4 1stc0.3 g7c00.4 25s00.3 g7c00.4 25s00.3 g7c00.4 1stc0.3 g7c00.4 25s00.3 g7c00.4 " ++
      "1stc0.3 gkao0.4 1stc0.3 g7c00.4 25s00.3 g7c00.4 1stc0.3 g7c00.4 25s00.3 g7c00.4 25s00.3 g7c00.4 " ++
      "1stc0.3 g7c00.4 25s00.3 g7c00.4 1stc0.3 gkao0.4 1stc0.3 g7c00.4 25s00.3 g7c00.4 1stc0.3 g7c00.4 " ++
      "25s00.3 g7c00.4 1stc0.3 gkao0.4 1stc0.3 g7c00.4 25s00.3 g7c00.4 1stc0.3 gkao0.4 1stc0.3 g7c00.4 " ++
      "25s00.3;<+01>-1",
    "Africa/Ceuta=-1276,0,3600d,0,0,3600,7200d,3600;-100edc0.1 91vek0.2 7x3w0.3 2vt440.2 8sqs0.4 " ++
      "ssyk0.2 8n6s0.4 9px80.2 905g0.4 a2yo0.2 902o0.4 k69dc0.2 657w0.3 3ifxg0.2 3jp80.3 va040.2 " ++
      "4qak0.3 e1ms0.2 7pp80.3 cnms0.2 3afw0.3 2xi840.5 129us0.6 9d1c0.7 9d1c0.6 9d1c0.7 9d1c0.6 " ++
      "9d1c0.7 9d1c0.6 9d1c0.7 9d1c0.6 9q000.7 9d1c0.6 9d1c0.7 9d1c0.6 9d1c0.7 9d1c0.6 9d1c0.7 9d1c0.6 " ++
      "9d1c0.7 9d1c0.6 9d1c0.7 9q000.6 asw00.7 7x6o0.6 asw00.7 7x6o0.6 asw00.7 7x6o0.6 b5uo0.7 7k800.6 " ++
      "b5uo0.7 7k800.6 b5uo0.7 7x6o0.6 asw00.7 7x6o0.6 asw00.7 7x6o0.6 b5uo0.7 7k800.6 b5uo0.7 7k800.6 " ++
      "b5uo0.7 7k800.6 b5uo0.7 7x6o0.6 asw00.7 7x6o0.6 asw00.7 7x6o0.6 b5uo0.7 7k800.6 b5uo0.7 7k800.6 " ++
      "b5uo0.7 7x6o0.6 asw00.7 7x6o0.6 asw00.7 7x6o0.6 asw00.7 7x6o0.6 b5uo0.7 7k800.6 b5uo0.7 7k800.6 " ++
      "b5uo0.7 7x6o0.6 asw00.7 7x6o0.6 asw00.7 7x6o0.6 b5uo0.7 7k800.6 b5uo0.7 7k800.6 b5uo0.7 7x6o0.6 " ++
      "asw00.7 7x6o0.6 asw00.7 7x6o0.6 asw00.7 7x6o0.6 b5uo0.7 7k800.6 b5uo0.7 7k800.6 b5uo0.7 7x6o0.6 " ++
      "asw00.7 7x6o0.6 asw00.7 7x6o0.6 b5uo0.7 7k800.6 b5uo0.7 7k800.6 b5uo0.7 7k800.6 b5uo0.7 7x6o0.6 " ++
      "asw00.7 7x6o0.6 asw00.7;CET-1CEST,M3.5.0,M10.5.0/3",
    "Africa/Conakry=-3292,0,-3600,0;-u9resk.1 bk944k.2 dhlk40.1;GMT0",
    "Africa/Dakar=-4184,-3600,0;-u9re3s.1 fcoa7s.2;GMT0",
    "Africa/Dar_es_Salaam=9428,10800,9900,10800;-kcrtxw.1 8ve49w.2 6sagp0.1;EAT-3",
    "Africa/Djibouti=10356,10800;-uj8fzo.1;EAT-3",
    "Africa/Douala=2328,3600;-u9rj4o.1;WAT-1",
    "Africa/El_Aaiun=-3168,-3600,3600d,0,0d,3600;-isdxk0.1 m2g0c0.3 vek0.2 4qak0.3 e1ms0.2 7pp80.3 " ++
      "cnms0.2 3afw0.3 fke5g0.2 4qak0.3 e1ms0.2 45x80.3 d2g40.2 51ek0.3 c8tg0.2 64ak0.3 e1sc0.2 47uo0.3 " ++
      "1leo0.2 23xc0.3 asw00.2 3lmo0.3 1qyo0.2 40g00.3 7x6o0.2 4mo00.3 1stc0.2 4deo0.3 7x6o0.2 3ylc0.3 " ++
      "1stc0.2 51hc0.3 7x6o0.2 3lmo0.3 1stc0.2 5reo0.3 7k800.2 2vpc0.3 25s00.2 64dc0.3 7k800.2 2iqo0.3 " ++
      "1stc0.2 6uao0.5 9q000.4 1stc0.5 g7c00.4 25s00.5 g7c00.4 1stc0.5 g7c00.4 25s00.5 g7c00.4 1stc0.5 " ++
      "gkao0.4 1stc0.5 g7c00.4 25s00.5 g7c00.4 1stc0.5 gkao0.4 1stc0.5 g7c00.4 25s00.5 g7c00.4 1stc0.5 " ++
      "g7c00.4 25s00.5 g7c00.4 1stc0.5 gkao0.4 1stc0.5 g7c00.4 25s00.5 g7c00.4 1stc0.5 g7c00.4 25s00.5 " ++
      "g7c00.4 25s00.5 g7c00.4 1stc0.5 g7c00.4 25s00.5 g7c00.4 1stc0.5 gkao0.4 1stc0.5 g7c00.4 25s00.5 " ++
      "g7c00.4 1stc0.5 g7c00.4 25s00.5 g7c00.4 25s00.5 g7c00.4 1stc0.5 g7c00.4 25s00.5 g7c00.4 1stc0.5 " ++
      "gkao0.4 1stc0.5 g7c00.4 25s00.5 g7c00.4 1stc0.5 g7c00.4 25s00.5 g7c00.4 25s00.5 g7c00.4 1stc0.5 " ++
      "g7c00.4 25s00.5 g7c00.4 1stc0.5 gkao0.4 1stc0.5 g7c00.4 25s00.5 g7c00.4 1stc0.5 g7c00.4 25s00.5 " ++
      "g7c00.4 25s00.5 g7c00.4 1stc0.5 g7c00.4 25s00.5 g7c00.4 1stc0.5 gkao0.4 1stc0.5 g7c00.4 25s00.5 " ++
      "g7c00.4 1stc0.5 g7c00.4 25s00.5 g7c00.4 25s00.5 g7c00.4 1stc0.5 g7c00.4 25s00.5 g7c00.4 1stc0.5 " ++
      "gkao0.4 1stc0.5 g7c00.4 25s00.5 g7c00.4 1stc0.5 g7c00.4 25s00.5 g7c00.4 25s00.5 g7c00.4 1stc0.5 " ++
      "g7c00.4 25s00.5 g7c00.4 1stc0.5 gkao0.4 1stc0.5 g7c00.4 25s00.5 g7c00.4 1stc0.5 g7c00.4 25s00.5 " ++
      "g7c00.4 1stc0.5 gkao0.4 1stc0.5 g7c00.4 25s00.5 g7c00.4 1stc0.5 gkao0.4 1stc0.5 g7c00.4 25s00.5;<+01>-1",
    "Africa/Freetown=-3180,-3180,-2400d,-3600,0;-19xcavo.1 gfpuo0.3 a4v6zo.2 681qo.3 7vcxc.2 awkeo.3 " ++
      "7vcxc.2 awkeo.3 7vcxc.2 ayf2o.3 7vcxc.2 awkeo.3 7vcxc.2 awkeo.3 7vcxc.2 e1j2o.3 4qe9c.2 7dqo.3 " ++
      "16dy9c.4;GMT0",
    "Africa/Gaborone=6220,5400,7200,10800d;-18cyvgs.1 9h5hys.2 l5xqu0.3 9cyk0.2;CAT-2",
    "Africa/Harare=7452,7200;-yvtf30.1;CAT-2",
    "Africa/Johannesburg=6720,5400,10800d,7200;-14nj6io.1 5rpt0o.3 kn7o60.2 9cyk0.3 9d440.2 9cyk0.3;SAST-2",
    "Africa/Juba=7588,10800d,7200,10800,7200;-kcrsis.2 kixuys.1 8l6k0.2 a4w40.1 8n180.2 a6qs0.1 " ++
      "8n180.2 a31g0.1 8ovw0.2 a16s0.1 8qqk0.2 9zc40.1 8sl80.2 9xhg0.1 8wak0.2 9ts40.1 8y580.2 a4w40.1 " ++
      "8n180.2 a31g0.1 8ovw0.2 a16s0.1 8sl80.2 9xhg0.1 8ufw0.2 9vms0.1 8wak0.2 9ts40.1 8y580.2 a4w40.1 " ++
      "8ovw0.2 a16s0.1 8qqk0.2 7frw40.3 azg180.2;CAT-2",
    "Africa/Kampala=7780,10800,9000,9900,10800;-lnse04.1 s8lo4.2 9e6420.3 4p4vb0.1;EAT-3",
    "Africa/Khartoum=7808,10800d,7200,10800,7200;-kcrsow.2 kixv4w.1 8l6k0.2 a4w40.1 8n180.2 a6qs0.1 " ++
      "8n180.2 a31g0.1 8ovw0.2 a16s0.1 8qqk0.2 9zc40.1 8sl80.2 9xhg0.1 8wak0.2 9ts40.1 8y580.2 a4w40.1 " ++
      "8n180.2 a31g0.1 8ovw0.2 a16s0.1 8sl80.2 9xhg0.1 8ufw0.2 9vms0.1 8wak0.2 9ts40.1 8y580.2 a4w40.1 " ++
      "8ovw0.2 a16s0.1 8qqk0.2 7frw40.3 9ac180.2;CAT-2",
    "Africa/Kigali=7216,7200;-i1ulkg.1;CAT-2",
    "Africa/Kinshasa=3672,3600;-11ngdi0.1;WAT-1",
    "Africa/Lagos=815,0,1800,3600;-xnxnan.1 1kdnan.0 2ve7dd.2 2yfgkn.3;WAT-1",
    "Africa/Libreville=2268,3600;-u9rj30.1;WAT-1",
    "Africa/Lome=292,0;-146nmw4.1;GMT0",
    "Africa/Luanda=3176,3124,3600;-14phh48.1 afpx08.2;WAT-1",
    "Africa/Lubumbashi=6592,3600,7200;-11ngfr4.1 bpwyb4.2;CAT-2",
    "Africa/Lusaka=6788,7200;-yvtekk.1;CAT-2",
    "Africa/Malabo=2108,0,3600;-u9riyk.1 r44sak.2;WAT-1",
    "Africa/Maputo=7818,7200;-vu3fd6.1;CAT-2",
    "Africa/Maseru=6600,7200,10800d;-yvtefc.1 l5xrrc.2 9cyk0.1;SAST-2",
    "Africa/Mbabane=7464,7200;-yvtf3c.1;SAST-2",
    "Africa/Mogadishu=10888,10800,9000,10800;-13r0weg.1 je91eg.2 dkj2q0.1;EAT-3",
    "Africa/Monrovia=-2588,-2588,-2670,0;-19xcbc4.1 je5c00.2 rl202a.3;GMT0",
    "Africa/Ndjamena=3612,3600,7200d;-u9rk4c.1 zdk5cc.2 7iak0.1;WAT-1",
    "Africa/Niamey=508,-3600,0,3600;-u9rhq4.1 bk99u4.2 dhlek0.3;WAT-1",
    "Africa/Nouakchott=-3828,0,-3600,0;-u9redo.1 bk93po.2 dyodg0.1;GMT0",
    "Africa/Ouagadougou=-364,0;-u9rh1w.1;GMT0",
    "Africa/Porto-Novo=628,0,3600;-u9rhtg.1 bk975g.2;WAT-1",
    "Africa/Sao_Tome=1616,-2205,0,3600,0;-18vsjww.1 em12kw.2 1jbm840.3 irxc0.4;GMT0",
    "Africa/Tripoli Libya=3164,7200d,3600,7200;-q3gfrw.2 gl6ajw.1 422c0.2 xado0.1 4bbo0.2 wrpg0.1 " ++
      "4s580.2 1kdpg0.3 c05bw0.2 4mqs0.1 9et80.2 9d440.1 9et80.2 9eys0.1 9et80.2 9mdg0.1 95jw0.2 " ++
      "9io40.1 9cyk0.2 99es0.1 9et80.2 9eys0.1 9et80.2 9d440.1 9et80.2 b2840.3 3cf3w0.2 9kis0.1 9et80.3 " ++
      "7vqyw0.2 75eo0.1 asw00.3;EET-2",
    "Africa/Tunis=2444,561,7200d,3600,3600,7200d;-1a9dr7w.1 fke44b.4 enxevl.2 b5uo0.3 53c00.2 u8w00.4 " ++
      "7x9g0.5 c8w80.4 7k800.5 z3w0.4 ew40.5 8bx80.4 9d440.5 9nx00.4 925o0.5 8l100.4 gi3440.2 7k800.3 " ++
      "b9k00.2 7vc00.3 51mw00.2 5ytc0.3 9d1c0.2 9d1c0.3 b9k00.2 7thc0.3 7m0tc0.2 7tk40.3 93us0.2 " ++
      "b5uo0.3 7k800.2 b5uo0.3 7x6o0.2 asw00.3;CET-1",
    "Africa/Windhoek=4104,5400,7200,10800d,7200,3600,7200d,7200;-14nj4i0.1 5rpr00.2 kn7o60.3 9cyk0.2 " ++
      "oj2nw0.4 235k00.5 8lho0.6 ast80.5 7x9g0.6 b5rw0.5 7kas0.6 b5rw0.5 7x9g0.6 ast80.5 7x9g0.6 " ++
      "ast80.5 7x9g0.6 ast80.5 7x9g0.6 ast80.5 7x9g0.6 b5rw0.5 7kas0.6 b5rw0.5 7x9g0.6 ast80.5 7x9g0.6 " ++
      "ast80.5 7x9g0.6 ast80.5 7x9g0.6 ast80.5 7x9g0.6 b5rw0.5 7x9g0.6 ast80.5 7x9g0.6 ast80.5 7x9g0.6 " ++
      "ast80.5 7x9g0.6 ast80.5 7x9g0.6 b5rw0.5 7kas0.6 b5rw0.5 7x9g0.6 ast80.5 7x9g0.6 ast80.5 7x9g0.6 " ++
      "ast80.5 7x9g0.6 2m7o0.4;CAT-2",
    "Europe/Amsterdam=1172,4772d,1172,4772d,1172,1200,4800d,4800d,3600,7200d,7200d,7200d,3600;-1ygf4wk.2 " ++
      "16g19c0.1 7v980.2 a51o0.3 7x6o0.4 a2yo0.3 9d1c0.4 9q000.3 902o0.4 9q000.3 902o0.4 9q000.3 " ++
      "902o0.4 9b6o0.3 a2yo0.4 c51c0.3 6l1c0.4 902o0.3 9q000.4 ci000.3 682o0.4 bgyo0.3 79400.4 bitc0.3 " ++
      "779c0.4 bmio0.3 7gio0.4 bbeo0.3 7eo00.4 bd9c0.3 7ctc0.4 bf400.3 7ayo0.4 bvs00.3 6uao0.4 bko00.3 " ++
      "7idc0.4 b9k00.3 7gio0.4 bbeo0.3 7eo00.4 bf400.3 7ayo0.4 btxc0.3 21uc0.7 4uaz8.5 bitc0.6 779c0.5 " ++
      "bko00.6 7idc0.5 bd3s0.10 1aarpc.8 7k800.9 9q000.8 9d1c0.9 9d1c0.8 9d1c0.9 8l9c0.8 ggp1c0.11 " ++
      "902o0.12 9q000.11 9d1c0.12 9d1c0.11 9d1c0.12 9q000.11 902o0.12 9d1c0.11 9d1c0.12 9d1c0.11 " ++
      "9d1c0.12 9d1c0.11 9d1c0.12 9d1c0.11 9q000.12 9d1c0.11 9d1c0.12 9d1c0.11 9d1c0.12 9d1c0.11 " ++
      "9d1c0.12 9d1c0.11 9d1c0.12 9d1c0.11 9d1c0.12 9d1c0.11 9q000.12 9d1c0.11 9d1c0.12 9d1c0.11 " ++
      "9d1c0.12 9d1c0.11 9d1c0.12 9d1c0.11 9d1c0.12 9d1c0.11 9d1c0.12 9q000.11 asw00.12 7x6o0.11 " ++
      "asw00.12 7x6o0.11 asw00.12 7x6o0.11 b5uo0.12 7k800.11 b5uo0.12 7k800.11 b5uo0.12 7x6o0.11 " ++
      "asw00.12 7x6o0.11 asw00.12 7x6o0.11 b5uo0.12 7k800.11 b5uo0.12 7k800.11 b5uo0.12 7k800.11 " ++
      "b5uo0.12 7x6o0.11 asw00.12 7x6o0.11 asw00.12 7x6o0.11 b5uo0.12 7k800.11 b5uo0.12 7k800.11 " ++
      "b5uo0.12 7x6o0.11 asw00.12 7x6o0.11 asw00.12 7x6o0.11 asw00.12 7x6o0.11 b5uo0.12 7k800.11 " ++
      "b5uo0.12 7k800.11 b5uo0.12 7x6o0.11 asw00.12 7x6o0.11 asw00.12 7x6o0.11 b5uo0.12 7k800.11 " ++
      "b5uo0.12 7k800.11 b5uo0.12 7x6o0.11 asw00.12 7x6o0.11 asw00.12 7x6o0.11 asw00.12 7x6o0.11 " ++
      "b5uo0.12 7k800.11 b5uo0.12 7k800.11 b5uo0.12 7x6o0.11 asw00.12 7x6o0.11 asw00.12 7x6o0.11 " ++
      "b5uo0.12 7k800.11 b5uo0.12 7k800.11 b5uo0.12 7k800.11 b5uo0.12 7x6o0.11 asw00.12 7x6o0.11 " ++
      "asw00.12;CET-1CEST,M3.5.0,M10.5.0/3",
    "Europe/Andorra=364,0,3600,7200d,3600;-100edm4.1 nvgqy4.2 k3ctg0.3 9d1c0.4 9d1c0.3 9d1c0.4 " ++
      "9d1c0.3 9d1c0.4 9d1c0.3 9d1c0.4 9d1c0.3 9d1c0.4 9d1c0.3 9q000.4 9d1c0.3 9d1c0.4 9d1c0.3 9d1c0.4 " ++
      "9d1c0.3 9d1c0.4 9d1c0.3 9d1c0.4 9d1c0.3 9d1c0.4 9q000.3 asw00.4 7x6o0.3 asw00.4 7x6o0.3 asw00.4 " ++
      "7x6o0.3 b5uo0.4 7k800.3 b5uo0.4 7k800.3 b5uo0.4 7x6o0.3 asw00.4 7x6o0.3 asw00.4 7x6o0.3 b5uo0.4 " ++
      "7k800.3 b5uo0.4 7k800.3 b5uo0.4 7k800.3 b5uo0.4 7x6o0.3 asw00.4 7x6o0.3 asw00.4 7x6o0.3 b5uo0.4 " ++
      "7k800.3 b5uo0.4 7k800.3 b5uo0.4 7x6o0.3 asw00.4 7x6o0.3 asw00.4 7x6o0.3 asw00.4 7x6o0.3 b5uo0.4 " ++
      "7k800.3 b5uo0.4 7k800.3 b5uo0.4 7x6o0.3 asw00.4 7x6o0.3 asw00.4 7x6o0.3 b5uo0.4 7k800.3 b5uo0.4 " ++
      "7k800.3 b5uo0.4 7x6o0.3 asw00.4 7x6o0.3 asw00.4 7x6o0.3 asw00.4 7x6o0.3 b5uo0.4 7k800.3 b5uo0.4 " ++
      "7k800.3 b5uo0.4 7x6o0.3 asw00.4 7x6o0.3 asw00.4 7x6o0.3 b5uo0.4 7k800.3 b5uo0.4 7k800.3 b5uo0.4 " ++
      "7k800.3 b5uo0.4 7x6o0.3 asw00.4 7x6o0.3 asw00.4;CET-1CEST,M3.5.0,M10.5.0/3",
    "Europe/Astrakhan=11532,10800,18000d,14400,14400,18000d,14400d,10800,14400;-nu2zkc.1 37bv8c.3 " ++
      "qi27w0.2 9et80.3 9d440.2 9et80.3 9d440.2 9et80.3 9eys0.2 9d6w0.4 9d1c0.5 9d1c0.4 9d1c0.5 9d1c0.4 " ++
      "9d1c0.5 9d1c0.4 9d1c0.5 9d1c0.4 9d1c0.6 9d440.7 9d1c0.6 9q000.7 9d1c0.4 ipzw0.6 9d440.7 9d1c0.6 " ++
      "9d1c0.7 9d1c0.6 9d1c0.7 9d1c0.6 9d1c0.7 9q000.6 asw00.7 7x6o0.6 asw00.7 7x6o0.6 asw00.7 7x6o0.6 " ++
      "b5uo0.7 7k800.6 b5uo0.7 7k800.6 b5uo0.7 7x6o0.6 asw00.7 7x6o0.6 asw00.7 7x6o0.6 b5uo0.7 7k800.6 " ++
      "b5uo0.7 7k800.6 b5uo0.7 7k800.6 b5uo0.7 7x6o0.6 asw00.7 7x6o0.6 asw00.7 7x6o0.6 b5uo0.7 7k800.4 " ++
      "1vbzw0.7 qnc40.4 bdvvrj.4;<+04>-4",
    "Europe/Athens=5692,5692,10800d,7200,3600,7200d,10800d,7200,10800d,7200;-12rxtq4.1 aw2tdo.3 " ++
      "8bjasg.2 2vmk0.3 4hiw40.2 16ik0.5 scog0.4 7lx40.5 9o2k0.4 9eys0.3 4atzw0.2 6djw0.3 bplus0.6 " ++
      "bq800.7 71uw0.6 9d1c0.7 902o0.6 91xc0.7 9o5c0.6 905g0.3 9qgo0.2 9akg0.3 9iik0.2 99980.3 9dcg0.8 " ++
      "9d1c0.9 9d1c0.8 9d1c0.9 9d1c0.8 9d1c0.9 9d1c0.8 9q000.9 9d1c0.8 9d1c0.9 9d1c0.8 9d1c0.9 9d1c0.8 " ++
      "9d1c0.9 9d1c0.8 9d1c0.9 9d1c0.8 9d1c0.9 9d1c0.8 9q000.9 9d1c0.8 9d1c0.9 9d1c0.8 9d1c0.9 9d1c0.8 " ++
      "9d1c0.9 9d1c0.8 9d1c0.9 9d1c0.8 9d1c0.9 9q000.8 asw00.9 7x6o0.8 asw00.9 7x6o0.8 asw00.9 7x6o0.8 " ++
      "b5uo0.9 7k800.8 b5uo0.9 7k800.8 b5uo0.9 7x6o0.8 asw00.9 7x6o0.8 asw00.9 7x6o0.8 b5uo0.9 7k800.8 " ++
      "b5uo0.9 7k800.8 b5uo0.9 7k800.8 b5uo0.9 7x6o0.8 asw00.9 7x6o0.8 asw00.9 7x6o0.8 b5uo0.9 7k800.8 " ++
      "b5uo0.9 7k800.8 b5uo0.9 7x6o0.8 asw00.9 7x6o0.8 asw00.9 7x6o0.8 asw00.9 7x6o0.8 b5uo0.9 7k800.8 " ++
      "b5uo0.9 7k800.8 b5uo0.9 7x6o0.8 asw00.9 7x6o0.8 asw00.9 7x6o0.8 b5uo0.9 7k800.8 b5uo0.9 7k800.8 " ++
      "b5uo0.9 7x6o0.8 asw00.9 7x6o0.8 asw00.9 7x6o0.8 asw00.9 7x6o0.8 b5uo0.9 7k800.8 b5uo0.9 7k800.8 " ++
      "b5uo0.9 7x6o0.8 asw00.9 7x6o0.8 asw00.9 7x6o0.8 b5uo0.9 7k800.8 b5uo0.9 7k800.8 b5uo0.9 7k800.8 " ++
      "b5uo0.9 7x6o0.8 asw00.9 7x6o0.8 asw00.9;EET-2EEST,M3.5.0/3,M10.5.0/4",
    "Europe/Belfast Europe/London GB GB-Eire=-75,3600d,0,7200d,0,3600,3600d,0;-1rprx9x.4 zqf9hx.1 " ++
      "6uao0.2 9q000.1 8c000.2 9o5c0.1 9ruo0.2 9b6o0.1 9ew00.2 9b6o0.1 auqo0.2 88ao0.1 9ew00.2 8y800.1 " ++
      "a2yo0.2 a2yo0.1 7k800.2 asw00.1 8a5c0.2 asw00.1 8n400.2 a2yo0.1 8n400.2 9q000.1 902o0.2 afxc0.1 " ++
      "8n400.2 a2yo0.1 8n400.2 9q000.1 902o0.2 a2yo0.1 8n400.2 a2yo0.1 8n400.2 9q000.1 9d1c0.2 a2yo0.1 " ++
      "8n400.2 9q000.1 902o0.2 a2yo0.1 8n400.2 a2yo0.1 8n400.2 9q000.1 902o0.2 a2yo0.1 b5uo0.2 51hc0.1 " ++
      "mbmk0.3 51hc0.1 c8qo0.3 6hc00.1 c8qo0.3 6uao0.1 bvs00.3 8n400.1 a4tc0.3 5clc0.1 4bms0.2 9q000.1 " ++
      "902o0.2 8a5c0.1 1frw0.3 64dc0.1 4bms0.2 6uao0.1 bvs00.2 7x6o0.1 asw00.2 8n400.1 9q000.2 902o0.1 " ++
      "9q000.2 9d1c0.1 9q000.2 902o0.1 8n400.2 9q000.1 902o0.2 a2yo0.1 8n400.2 afxc0.1 8n400.2 9q000.1 " ++
      "902o0.2 a2yo0.1 8n400.2 a2yo0.1 8n400.2 9q000.1 902o0.2 902o0.1 b5uo0.2 7k800.1 b5uo0.2 7x6o0.1 " ++
      "asw00.2 7k800.1 b5uo0.2 7k800.1 b5uo0.2 7k800.1 b5uo0.2 7k800.1 bitc0.2 5reo0.1 cyfo0.5 1kjf00.7 " ++
      "779c0.1 bitc0.2 779c0.1 bitc0.2 779c0.1 bitc0.2 779c0.1 bitc0.2 7k800.1 b5uo0.2 7k800.1 b5uo0.2 " ++
      "7k800.1 bitc0.2 779c0.1 bitc0.2 779c0.1 bitc0.2 7x3w0.6 asw00.7 7x6o0.6 asw00.7 7x6o0.6 asw00.7 " ++
      "7x6o0.6 b5uo0.7 7x6o0.6 asw00.7 7x6o0.6 asw00.7 7x6o0.6 asw00.7 7x6o0.6 asw00.7 7x6o0.6 b5uo0.7 " ++
      "7k800.6 b5uo0.7 7x6o0.6 asw00.7 7x6o0.6 asw00.7 7x6o0.6 asw00.7 7x6o0.6 asw00.7 7x6o0.6 asw00.7 " ++
      "8a5c0.6 asw00.7 7x6o0.6 asw00.7 7x6o0.6 asw00.7 7x6o0.6 b5uo0.7 7k800.6 b5uo0.7 7k800.6 b5uo0.7 " ++
      "7x6o0.6 asw00.7 7x6o0.6 asw00.7 7x6o0.6 b5uo0.7 7k800.6 b5uo0.7 7k800.6 b5uo0.7 7k800.6 b5uo0.7 " ++
      "7x6o0.6 asw00.7 7x6o0.6 asw00.7 7x6o0.6 b5uo0.7 7k800.6 b5uo0.7 7k800.6 b5uo0.7 7x6o0.6 asw00.7 " ++
      "7x6o0.6 asw00.7 7x6o0.6 asw00.7 7x6o0.6 b5uo0.7 7k800.6 b5uo0.7 7k800.6 b5uo0.7 7x6o0.6 asw00.7 " ++
      "7x6o0.6 asw00.7 7x6o0.6 b5uo0.7 7k800.6 b5uo0.7 7k800.6 b5uo0.7 7x6o0.6 asw00.7 7x6o0.6 asw00.7 " ++
      "7x6o0.6 asw00.7 7x6o0.6 b5uo0.7 7k800.6 b5uo0.7 7k800.6 b5uo0.7 7x6o0.6 asw00.7 7x6o0.6 asw00.7 " ++
      "7x6o0.6 b5uo0.7 7k800.6 b5uo0.7 7k800.6 b5uo0.7 7k800.6 b5uo0.7 7x6o0.6 asw00.7 7x6o0.6 asw00.7;GMT0BST,M3.5.0/1,M10.5.0",
    "Europe/Belgrade Europe/Podgorica=4920,3600,3600,7200d,7200d,7200d,3600;-18vsmgo.1 twhnko.4 " ++
      "swz00.2 7k800.3 9q000.2 9d1c0.3 9d1c0.2 b7pc0.3 6qlc0.2 jl1hc0.5 9d1c0.6 9d1c0.5 9q000.6 9d1c0.5 " ++
      "9d1c0.6 9d1c0.5 9d1c0.6 9d1c0.5 9d1c0.6 9d1c0.5 9d1c0.6 9d1c0.5 9d1c0.6 9d1c0.5 9q000.6 9d1c0.5 " ++
      "9d1c0.6 9d1c0.5 9d1c0.6 9d1c0.5 9d1c0.6 9d1c0.5 9d1c0.6 9d1c0.5 9d1c0.6 9q000.5 asw00.6 7x6o0.5 " ++
      "asw00.6 7x6o0.5 asw00.6 7x6o0.5 b5uo0.6 7k800.5 b5uo0.6 7k800.5 b5uo0.6 7x6o0.5 asw00.6 7x6o0.5 " ++
      "asw00.6 7x6o0.5 b5uo0.6 7k800.5 b5uo0.6 7k800.5 b5uo0.6 7k800.5 b5uo0.6 7x6o0.5 asw00.6 7x6o0.5 " ++
      "asw00.6 7x6o0.5 b5uo0.6 7k800.5 b5uo0.6 7k800.5 b5uo0.6 7x6o0.5 asw00.6 7x6o0.5 asw00.6 7x6o0.5 " ++
      "asw00.6 7x6o0.5 b5uo0.6 7k800.5 b5uo0.6 7k800.5 b5uo0.6 7x6o0.5 asw00.6 7x6o0.5 asw00.6 7x6o0.5 " ++
      "b5uo0.6 7k800.5 b5uo0.6 7k800.5 b5uo0.6 7x6o0.5 asw00.6 7x6o0.5 asw00.6 7x6o0.5 asw00.6 7x6o0.5 " ++
      "b5uo0.6 7k800.5 b5uo0.6 7k800.5 b5uo0.6 7x6o0.5 asw00.6 7x6o0.5 asw00.6 7x6o0.5 b5uo0.6 7k800.5 " ++
      "b5uo0.6 7k800.5 b5uo0.6 7k800.5 b5uo0.6 7x6o0.5 asw00.6 7x6o0.5 asw00.6;CET-1CEST,M3.5.0,M10.5.0/3",
    "Europe/Bratislava Europe/Prague=3464,3464,7200d,3600,7200d,3600,0,7200d,3600;-1qmkw08.1 lsd1c0.3 " ++
      "cttug8.2 7ves0.3 a4yw0.4 7x6o0.5 asw00.4 7x6o0.5 b8qdc0.4 1cm000.5 7k800.4 9q000.5 9d1c0.4 " ++
      "9d1c0.5 9d1c0.4 9d1c0.5 b5uo0.4 7vc00.5 2vs40.6 4bk00.3 2vmk0.4 8n400.5 a2yo0.4 8n400.5 9o5c0.4 " ++
      "91xc0.5 fe6000.7 9d1c0.8 9q000.7 902o0.8 9d1c0.7 9d1c0.8 9d1c0.7 9d1c0.8 9d1c0.7 9d1c0.8 9d1c0.7 " ++
      "9q000.8 9d1c0.7 9d1c0.8 9d1c0.7 9d1c0.8 9d1c0.7 9d1c0.8 9d1c0.7 9d1c0.8 9d1c0.7 9d1c0.8 9d1c0.7 " ++
      "9q000.8 9d1c0.7 9d1c0.8 9d1c0.7 9d1c0.8 9d1c0.7 9d1c0.8 9d1c0.7 9d1c0.8 9d1c0.7 9d1c0.8 9q000.7 " ++
      "asw00.8 7x6o0.7 asw00.8 7x6o0.7 asw00.8 7x6o0.7 b5uo0.8 7k800.7 b5uo0.8 7k800.7 b5uo0.8 7x6o0.7 " ++
      "asw00.8 7x6o0.7 asw00.8 7x6o0.7 b5uo0.8 7k800.7 b5uo0.8 7k800.7 b5uo0.8 7k800.7 b5uo0.8 7x6o0.7 " ++
      "asw00.8 7x6o0.7 asw00.8 7x6o0.7 b5uo0.8 7k800.7 b5uo0.8 7k800.7 b5uo0.8 7x6o0.7 asw00.8 7x6o0.7 " ++
      "asw00.8 7x6o0.7 asw00.8 7x6o0.7 b5uo0.8 7k800.7 b5uo0.8 7k800.7 b5uo0.8 7x6o0.7 asw00.8 7x6o0.7 " ++
      "asw00.8 7x6o0.7 b5uo0.8 7k800.7 b5uo0.8 7k800.7 b5uo0.8 7x6o0.7 asw00.8 7x6o0.7 asw00.8 7x6o0.7 " ++
      "asw00.8 7x6o0.7 b5uo0.8 7k800.7 b5uo0.8 7k800.7 b5uo0.8 7x6o0.7 asw00.8 7x6o0.7 asw00.8 7x6o0.7 " ++
      "b5uo0.8 7k800.7 b5uo0.8 7k800.7 b5uo0.8 7k800.7 b5uo0.8 7x6o0.7 asw00.8 7x6o0.7 asw00.8;CET-1CEST,M3.5.0,M10.5.0/3",
    "Europe/Brussels=1050,1050,0,3600,7200d,3600,7200d,3600d,0,0,7200d,3600;-1ayy3h6.1 6forh6.2 " ++
      "br3hc0.3 rrx80.6 7vc00.3 a4yw0.4 7x6o0.5 asw00.4 7x6o0.5 2wh40.9 5omo0.7 b5uo0.8 6uao0.7 cyo00.8 " ++
      "7ayo0.7 bko00.8 7rmo0.7 a2yo0.8 a2yo0.7 8n400.8 902o0.7 9q000.8 9d1c0.7 9d1c0.8 a2yo0.7 8n400.8 " ++
      "9q000.7 902o0.8 a2yo0.7 90b00.8 a2yo0.7 8n400.8 9q000.7 902o0.8 a2yo0.7 8n400.8 9d1c0.7 9d1c0.8 " ++
      "902o0.7 a2yo0.8 9d1c0.7 9d1c0.8 902o0.7 9q000.8 a2yo0.7 8n400.8 9d1c0.7 9d1c0.8 902o0.7 9q000.8 " ++
      "a2yo0.7 b5uo0.8 51hc0.7 4deo0.4 1a36k0.5 7k800.4 9q000.5 9d1c0.4 8l9c0.5 a4tc0.4 8l9c0.5 clpc0.4 " ++
      "79400.5 fwu800.10 902o0.11 9q000.10 9d1c0.11 9d1c0.10 9d1c0.11 9q000.10 902o0.11 9d1c0.10 " ++
      "9d1c0.11 9d1c0.10 9d1c0.11 9d1c0.10 9d1c0.11 9d1c0.10 9q000.11 9d1c0.10 9d1c0.11 9d1c0.10 " ++
      "9d1c0.11 9d1c0.10 9d1c0.11 9d1c0.10 9d1c0.11 9d1c0.10 9d1c0.11 9d1c0.10 9q000.11 9d1c0.10 " ++
      "9d1c0.11 9d1c0.10 9d1c0.11 9d1c0.10 9d1c0.11 9d1c0.10 9d1c0.11 9d1c0.10 9d1c0.11 9q000.10 " ++
      "asw00.11 7x6o0.10 asw00.11 7x6o0.10 asw00.11 7x6o0.10 b5uo0.11 7k800.10 b5uo0.11 7k800.10 " ++
      "b5uo0.11 7x6o0.10 asw00.11 7x6o0.10 asw00.11 7x6o0.10 b5uo0.11 7k800.10 b5uo0.11 7k800.10 " ++
      "b5uo0.11 7k800.10 b5uo0.11 7x6o0.10 asw00.11 7x6o0.10 asw00.11 7x6o0.10 b5uo0.11 7k800.10 " ++
      "b5uo0.11 7k800.10 b5uo0.11 7x6o0.10 asw00.11 7x6o0.10 asw00.11 7x6o0.10 asw00.11 7x6o0.10 " ++
      "b5uo0.11 7k800.10 b5uo0.11 7k800.10 b5uo0.11 7x6o0.10 asw00.11 7x6o0.10 asw00.11 7x6o0.10 " ++
      "b5uo0.11 7k800.10 b5uo0.11 7k800.10 b5uo0.11 7x6o0.10 asw00.11 7x6o0.10 asw00.11 7x6o0.10 " ++
      "asw00.11 7x6o0.10 b5uo0.11 7k800.10 b5uo0.11 7k800.10 b5uo0.11 7x6o0.10 asw00.11 7x6o0.10 " ++
      "asw00.11 7x6o0.10 b5uo0.11 7k800.10 b5uo0.11 7k800.10 b5uo0.11 7k800.10 b5uo0.11 7x6o0.10 " ++
      "asw00.11 7x6o0.10 asw00.11;CET-1CEST,M3.5.0,M10.5.0/3",
    "Europe/Bucharest=6264,6264,10800d,7200,10800d,7200,10800d,7200;-14u7wu0.1 krxxc0.5 fj8m0.2 " ++
      "6w5c0.3 9d1c0.2 9d1c0.3 9q000.2 9d1c0.3 9d1c0.2 9d1c0.3 9d1c0.2 9d1c0.3 9d1c0.2 9d1c0.3 9d1c0.2 " ++
      "9d1c0.3 9d1c0.2 9d1c0.3 kp0dc0.4 6h980.5 9q000.4 905g0.5 9d6w0.2 9d1c0.3 9d1c0.2 9d1c0.3 9d1c0.2 " ++
      "9d1c0.3 9d1c0.2 9q000.3 9d1c0.2 9d1c0.3 9d1c0.2 9d1c0.3 9d1c0.2 9d1c0.3 9d1c0.2 9d1c0.3 9d1c0.2 " ++
      "9d1c0.3 9d1c0.2 9q000.3 9cvs0.2 9d1c0.3 9d1c0.2 9d1c0.3 9d1c0.2 9d1c0.3 9d1c0.4 9cyk0.5 9d440.4 " ++
      "9cyk0.5 9q2s0.4 ast80.5 7xhs0.6 asw00.7 7x6o0.6 asw00.7 7x6o0.6 b5uo0.7 7k800.6 b5uo0.7 7k800.6 " ++
      "b5uo0.7 7x6o0.6 asw00.7 7x6o0.6 asw00.7 7x6o0.6 b5uo0.7 7k800.6 b5uo0.7 7k800.6 b5uo0.7 7k800.6 " ++
      "b5uo0.7 7x6o0.6 asw00.7 7x6o0.6 asw00.7 7x6o0.6 b5uo0.7 7k800.6 b5uo0.7 7k800.6 b5uo0.7 7x6o0.6 " ++
      "asw00.7 7x6o0.6 asw00.7 7x6o0.6 asw00.7 7x6o0.6 b5uo0.7 7k800.6 b5uo0.7 7k800.6 b5uo0.7 7x6o0.6 " ++
      "asw00.7 7x6o0.6 asw00.7 7x6o0.6 b5uo0.7 7k800.6 b5uo0.7 7k800.6 b5uo0.7 7x6o0.6 asw00.7 7x6o0.6 " ++
      "asw00.7 7x6o0.6 asw00.7 7x6o0.6 b5uo0.7 7k800.6 b5uo0.7 7k800.6 b5uo0.7 7x6o0.6 asw00.7 7x6o0.6 " ++
      "asw00.7 7x6o0.6 b5uo0.7 7k800.6 b5uo0.7 7k800.6 b5uo0.7 7k800.6 b5uo0.7 7x6o0.6 asw00.7 7x6o0.6 " ++
      "asw00.7;EET-2EEST,M3.5.0/3,M10.5.0/4",
    "Europe/Budapest=4580,7200d,3600,7200d,3600,7200d,3600;-15bee78.2 db0dz8.1 7ves0.2 a4yw0.3 " ++
      "7x6o0.4 asw00.1 7x6o0.2 auqo0.1 7vc00.2 afxc0.1 8n400.2 aq1x00.1 thcc0.4 7k800.3 9q000.4 9d1c0.3 " ++
      "9d1c0.4 awd00.1 9eys0.2 7pxk0.3 9rrw0.2 9b9g0.3 9d1c0.4 9d1c0.3 9d1c0.4 9q000.3 902o0.4 2f4vs0.1 " ++
      "6u7w0.2 bw0c0.1 6uao0.2 clpc0.1 64dc0.2 clpc0.1 64dc0.2 br3bs0.1 902o0.2 9d1c0.1 9d1c0.2 9d1c0.1 " ++
      "9d1c0.2 9d1c0.1 9d1c0.2 9d6w0.5 9q000.6 9d1c0.5 9d1c0.6 9d1c0.5 9d1c0.6 9d1c0.5 9d1c0.6 9d1c0.5 " ++
      "9d1c0.6 9d1c0.5 9d1c0.6 9d1c0.5 9q000.6 9d1c0.5 9d1c0.6 9d1c0.5 9d1c0.6 9d1c0.5 9d1c0.6 9d1c0.5 " ++
      "9d1c0.6 9d1c0.5 9d1c0.6 9q000.5 asw00.6 7x6o0.5 asw00.6 7x6o0.5 asw00.6 7x6o0.5 b5uo0.6 7k800.5 " ++
      "b5uo0.6 7k800.5 b5uo0.6 7x6o0.5 asw00.6 7x6o0.5 asw00.6 7x6o0.5 b5uo0.6 7k800.5 b5uo0.6 7k800.5 " ++
      "b5uo0.6 7k800.5 b5uo0.6 7x6o0.5 asw00.6 7x6o0.5 asw00.6 7x6o0.5 b5uo0.6 7k800.5 b5uo0.6 7k800.5 " ++
      "b5uo0.6 7x6o0.5 asw00.6 7x6o0.5 asw00.6 7x6o0.5 asw00.6 7x6o0.5 b5uo0.6 7k800.5 b5uo0.6 7k800.5 " ++
      "b5uo0.6 7x6o0.5 asw00.6 7x6o0.5 asw00.6 7x6o0.5 b5uo0.6 7k800.5 b5uo0.6 7k800.5 b5uo0.6 7x6o0.5 " ++
      "asw00.6 7x6o0.5 asw00.6 7x6o0.5 asw00.6 7x6o0.5 b5uo0.6 7k800.5 b5uo0.6 7k800.5 b5uo0.6 7x6o0.5 " ++
      "asw00.6 7x6o0.5 asw00.6 7x6o0.5 b5uo0.6 7k800.5 b5uo0.6 7k800.5 b5uo0.6 7k800.5 b5uo0.6 7x6o0.5 " ++
      "asw00.6 7x6o0.5 asw00.6;CET-1CEST,M3.5.0,M10.5.0/3",
    "Europe/Busingen Europe/Zurich=2048,1786,7200d,3600,7200d,3600;-1os49kw.1 lc05ja.3 ohmxdm.2 " ++
      "7x6o0.3 asw00.2 7x6o0.3 k2zus0.4 9d1c0.5 9d1c0.4 9d1c0.5 9d1c0.4 9d1c0.5 9d1c0.4 9q000.5 9d1c0.4 " ++
      "9d1c0.5 9d1c0.4 9d1c0.5 9d1c0.4 9d1c0.5 9d1c0.4 9d1c0.5 9d1c0.4 9d1c0.5 9d1c0.4 9q000.5 9d1c0.4 " ++
      "9d1c0.5 9d1c0.4 9d1c0.5 9d1c0.4 9d1c0.5 9d1c0.4 9d1c0.5 9d1c0.4 9d1c0.5 9q000.4 asw00.5 7x6o0.4 " ++
      "asw00.5 7x6o0.4 asw00.5 7x6o0.4 b5uo0.5 7k800.4 b5uo0.5 7k800.4 b5uo0.5 7x6o0.4 asw00.5 7x6o0.4 " ++
      "asw00.5 7x6o0.4 b5uo0.5 7k800.4 b5uo0.5 7k800.4 b5uo0.5 7k800.4 b5uo0.5 7x6o0.4 asw00.5 7x6o0.4 " ++
      "asw00.5 7x6o0.4 b5uo0.5 7k800.4 b5uo0.5 7k800.4 b5uo0.5 7x6o0.4 asw00.5 7x6o0.4 asw00.5 7x6o0.4 " ++
      "asw00.5 7x6o0.4 b5uo0.5 7k800.4 b5uo0.5 7k800.4 b5uo0.5 7x6o0.4 asw00.5 7x6o0.4 asw00.5 7x6o0.4 " ++
      "b5uo0.5 7k800.4 b5uo0.5 7k800.4 b5uo0.5 7x6o0.4 asw00.5 7x6o0.4 asw00.5 7x6o0.4 asw00.5 7x6o0.4 " ++
      "b5uo0.5 7k800.4 b5uo0.5 7k800.4 b5uo0.5 7x6o0.4 asw00.5 7x6o0.4 asw00.5 7x6o0.4 b5uo0.5 7k800.4 " ++
      "b5uo0.5 7k800.4 b5uo0.5 7k800.4 b5uo0.5 7x6o0.4 asw00.5 7x6o0.4 asw00.5;CET-1CEST,M3.5.0,M10.5.0/3",
    "Europe/Chisinau Europe/Tiraspol=6920,6900,6264,10800d,7200,7200,10800d,3600,7200d,7200d,14400d,10800,10800,14400d,10800d" ++
      ",7200;-1ayy808.1 jw96ok.2 70f1to.5 fj8m0.3 6w5c0.4 9d1c0.3 9d1c0.4 9q000.3 9d1c0.4 9d1c0.3 " ++
      "9d1c0.4 9d1c0.3 9d1c0.4 9d1c0.3 9d1c0.4 9d1c0.3 9d1c0.4 9d1c0.3 9d1c0.4 geqo0.6 ha580.9 oc8g0.7 " ++
      "7k800.8 9q000.7 9d1c0.8 7cl00.11 j3pbw0.10 9et80.11 9d440.10 9et80.11 9d440.10 9et80.11 9eys0.10 " ++
      "9d6w0.12 9d1c0.13 9d1c0.12 9d1c0.13 9d1c0.12 9d1c0.13 9d1c0.12 9d1c0.13 9d1c0.12 9d1c0.13 " ++
      "9d1c0.12 9d1c0.13 25p80.6 7kdk0.4 9d1c0.3 9d1c0.4 9cvs0.6 9cyk0.5 9d440.6 9cyk0.5 9d440.6 " ++
      "9cyk0.5 9d440.6 9cyk0.5 9q2s0.6 ast80.5 7xf00.6 asw00.5 7x6o0.6 asw00.5 7x6o0.6 b5uo0.5 7k800.6 " ++
      "b5uo0.5 7k800.6 b5uo0.5 7x6o0.6 asw00.5 7x6o0.6 asw00.5 7x6o0.6 b5uo0.5 7k800.6 b5uo0.5 7k800.6 " ++
      "b5uo0.5 7k800.6 b5uo0.5 7x6o0.6 asw00.5 7x6o0.6 asw00.5 7x6o0.6 b5uo0.5 7k800.6 b5uo0.5 7k800.6 " ++
      "b5uo0.5 7x6o0.6 asw00.5 7x6o0.6 asw00.5 7x6o0.6 asw00.5 7x6o0.6 b5uo0.5 7k800.6 b5uo0.5 7k800.6 " ++
      "b5uo0.5 7x6o0.6 asw00.5 7x6o0.6 asw00.5 7x6o0.6 b5uo0.5 7k800.6 b5uo0.5 7k800.6 b5uo0.5 7x6o0.6 " ++
      "asw00.5 7x6o0.6 asw00.5 7x6o0.6 asw00.5 7x6o0.6 b5uo0.5 7k800.6 b5uo0.5 7k800.6 b5uo0.5 7x6o0.6 " ++
      "asw00.5 7x6o0.6 asw00.5 7x6o0.6 b5uo0.5 7k800.6 b5uo0.5 7k800.6 b5uo0.5 7k800.6 b5uo0.5 7x6o0.6 " ++
      "asw00.5 7x6o0.6 asw00.5;EET-2EEST,M3.5.0,M10.5.0/3",
    "Europe/Copenhagen=3020,3020,7200d,3600,3600,7200d,7200d,3600;-15r1bnw.1 235k00.3 bo7orw.2 " ++
      "75bw0.3 cbs2w0.2 1aco80.4 7k800.5 9q000.4 9d1c0.5 9d1c0.4 9d1c0.5 6y000.4 dbmo0.5 6bs00.4 " ++
      "clpc0.5 51hc0.4 e1k00.5 4oio0.4 giutc0.6 902o0.7 9d1c0.6 9d1c0.7 9d1c0.6 9d1c0.7 9d1c0.6 9d1c0.7 " ++
      "9d1c0.6 9q000.7 9d1c0.6 9d1c0.7 9d1c0.6 9d1c0.7 9d1c0.6 9d1c0.7 9d1c0.6 9d1c0.7 9d1c0.6 9d1c0.7 " ++
      "9d1c0.6 9q000.7 9d1c0.6 9d1c0.7 9d1c0.6 9d1c0.7 9d1c0.6 9d1c0.7 9d1c0.6 9d1c0.7 9d1c0.6 9d1c0.7 " ++
      "9q000.6 asw00.7 7x6o0.6 asw00.7 7x6o0.6 asw00.7 7x6o0.6 b5uo0.7 7k800.6 b5uo0.7 7k800.6 b5uo0.7 " ++
      "7x6o0.6 asw00.7 7x6o0.6 asw00.7 7x6o0.6 b5uo0.7 7k800.6 b5uo0.7 7k800.6 b5uo0.7 7k800.6 b5uo0.7 " ++
      "7x6o0.6 asw00.7 7x6o0.6 asw00.7 7x6o0.6 b5uo0.7 7k800.6 b5uo0.7 7k800.6 b5uo0.7 7x6o0.6 asw00.7 " ++
      "7x6o0.6 asw00.7 7x6o0.6 asw00.7 7x6o0.6 b5uo0.7 7k800.6 b5uo0.7 7k800.6 b5uo0.7 7x6o0.6 asw00.7 " ++
      "7x6o0.6 asw00.7 7x6o0.6 b5uo0.7 7k800.6 b5uo0.7 7k800.6 b5uo0.7 7x6o0.6 asw00.7 7x6o0.6 asw00.7 " ++
      "7x6o0.6 asw00.7 7x6o0.6 b5uo0.7 7k800.6 b5uo0.7 7k800.6 b5uo0.7 7x6o0.6 asw00.7 7x6o0.6 asw00.7 " ++
      "7x6o0.6 b5uo0.7 7k800.6 b5uo0.7 7k800.6 b5uo0.7 7k800.6 b5uo0.7 7x6o0.6 asw00.7 7x6o0.6 asw00.7;CET-1CEST,M3.5.0,M10.5.0" ++
      "/3",
    "Europe/Gibraltar=-1284,3600d,0,7200d,0,3600,7200d,3600;-1anxr0c.4 iol38c.1 6uao0.2 9q000.1 " ++
      "8c000.2 9o5c0.1 9ruo0.2 9b6o0.1 9ew00.2 9b6o0.1 auqo0.2 88ao0.1 9ew00.2 8y800.1 a2yo0.2 a2yo0.1 " ++
      "7k800.2 asw00.1 8a5c0.2 asw00.1 8n400.2 a2yo0.1 8n400.2 9q000.1 902o0.2 afxc0.1 8n400.2 a2yo0.1 " ++
      "8n400.2 9q000.1 902o0.2 a2yo0.1 8n400.2 a2yo0.1 8n400.2 9q000.1 9d1c0.2 a2yo0.1 8n400.2 9q000.1 " ++
      "902o0.2 a2yo0.1 8n400.2 a2yo0.1 8n400.2 9q000.1 902o0.2 a2yo0.1 b5uo0.2 51hc0.1 mbmk0.3 51hc0.1 " ++
      "c8qo0.3 6hc00.1 c8qo0.3 6uao0.1 bvs00.3 8n400.1 a4tc0.3 5clc0.1 4bms0.2 9q000.1 902o0.2 8a5c0.1 " ++
      "1frw0.3 64dc0.1 4bms0.2 6uao0.1 bvs00.2 7x6o0.1 asw00.2 8n400.1 9q000.2 902o0.1 9q000.2 9d1c0.1 " ++
      "9q000.2 902o0.1 8n400.2 9q000.1 902o0.2 a2yo0.1 8n400.2 afxc0.1 8n400.2 9q000.5 d0tp80.6 9d1c0.7 " ++
      "9d1c0.6 9d1c0.7 9d1c0.6 9q000.7 9d1c0.6 9d1c0.7 9d1c0.6 9d1c0.7 9d1c0.6 9d1c0.7 9d1c0.6 9d1c0.7 " ++
      "9d1c0.6 9d1c0.7 9d1c0.6 9q000.7 9d1c0.6 9d1c0.7 9d1c0.6 9d1c0.7 9d1c0.6 9d1c0.7 9d1c0.6 9d1c0.7 " ++
      "9d1c0.6 9d1c0.7 9q000.6 asw00.7 7x6o0.6 asw00.7 7x6o0.6 asw00.7 7x6o0.6 b5uo0.7 7k800.6 b5uo0.7 " ++
      "7k800.6 b5uo0.7 7x6o0.6 asw00.7 7x6o0.6 asw00.7 7x6o0.6 b5uo0.7 7k800.6 b5uo0.7 7k800.6 b5uo0.7 " ++
      "7k800.6 b5uo0.7 7x6o0.6 asw00.7 7x6o0.6 asw00.7 7x6o0.6 b5uo0.7 7k800.6 b5uo0.7 7k800.6 b5uo0.7 " ++
      "7x6o0.6 asw00.7 7x6o0.6 asw00.7 7x6o0.6 asw00.7 7x6o0.6 b5uo0.7 7k800.6 b5uo0.7 7k800.6 b5uo0.7 " ++
      "7x6o0.6 asw00.7 7x6o0.6 asw00.7 7x6o0.6 b5uo0.7 7k800.6 b5uo0.7 7k800.6 b5uo0.7 7x6o0.6 asw00.7 " ++
      "7x6o0.6 asw00.7 7x6o0.6 asw00.7 7x6o0.6 b5uo0.7 7k800.6 b5uo0.7 7k800.6 b5uo0.7 7x6o0.6 asw00.7 " ++
      "7x6o0.6 asw00.7 7x6o0.6 b5uo0.7 7k800.6 b5uo0.7 7k800.6 b5uo0.7 7k800.6 b5uo0.7 7x6o0.6 asw00.7 " ++
      "7x6o0.6 asw00.7;CET-1CEST,M3.5.0,M10.5.0/3",
    "Europe/Guernsey=-609,3600d,0,0,3600,7200d,7200d,7200d,7200d,3600,3600d,0;-tiakv3.3 1ixx33.1 " ++
      "6uao0.2 9q000.1 8c000.2 9o5c0.1 9ruo0.2 9b6o0.1 9ew00.2 9b6o0.1 auqo0.2 88ao0.1 9ew00.2 8y800.1 " ++
      "a2yo0.2 a2yo0.1 7k800.2 asw00.1 8a5c0.2 asw00.1 8n400.2 a2yo0.1 8n400.2 9q000.1 902o0.2 afxc0.1 " ++
      "8n400.2 a2yo0.1 8n400.2 9q000.1 902o0.2 a2yo0.1 8n400.2 a2yo0.1 8n400.2 9q000.1 9d1c0.2 a2yo0.1 " ++
      "8n400.2 9q000.1 902o0.2 a2yo0.1 8n400.2 a2yo0.1 8n400.2 9q000.1 902o0.2 a2yo0.1 b5uo0.2 51hc0.1 " ++
      "6kt00.6 17vs80.4 7k800.5 9q000.4 9d1c0.5 9d1c0.4 9d1c0.5 1ufo0.8 3i5o0.1 4bms0.2 9q000.1 902o0.2 " ++
      "8a5c0.1 1frw0.7 64dc0.1 4bms0.2 6uao0.1 bvs00.2 7x6o0.1 asw00.2 8n400.1 9q000.2 902o0.1 9q000.2 " ++
      "9d1c0.1 9q000.2 902o0.1 8n400.2 9q000.1 902o0.2 a2yo0.1 8n400.2 afxc0.1 8n400.2 9q000.1 902o0.2 " ++
      "a2yo0.1 8n400.2 a2yo0.1 8n400.2 9q000.1 902o0.2 902o0.1 b5uo0.2 7k800.1 b5uo0.2 7x6o0.1 asw00.2 " ++
      "7k800.1 b5uo0.2 7k800.1 b5uo0.2 7k800.1 b5uo0.2 7k800.1 bitc0.2 5reo0.1 cyfo0.9 1kjf00.11 " ++
      "779c0.1 bitc0.2 779c0.1 bitc0.2 779c0.1 bitc0.2 779c0.1 bitc0.2 7k800.1 b5uo0.2 7k800.1 b5uo0.2 " ++
      "7k800.1 bitc0.2 779c0.1 bitc0.2 779c0.1 bitc0.2 7x3w0.10 asw00.11 7x6o0.10 asw00.11 7x6o0.10 " ++
      "asw00.11 7x6o0.10 b5uo0.11 7x6o0.10 asw00.11 7x6o0.10 asw00.11 7x6o0.10 asw00.11 7x6o0.10 " ++
      "asw00.11 7x6o0.10 b5uo0.11 7k800.10 b5uo0.11 7x6o0.10 asw00.11 7x6o0.10 asw00.11 7x6o0.10 " ++
      "asw00.11 7x6o0.10 asw00.11 7x6o0.10 asw00.11 8a5c0.10 asw00.11 7x6o0.10 asw00.11 7x6o0.10 " ++
      "asw00.11 7x6o0.10 b5uo0.11 7k800.10 b5uo0.11 7k800.10 b5uo0.11 7x6o0.10 asw00.11 7x6o0.10 " ++
      "asw00.11 7x6o0.10 b5uo0.11 7k800.10 b5uo0.11 7k800.10 b5uo0.11 7k800.10 b5uo0.11 7x6o0.10 " ++
      "asw00.11 7x6o0.10 asw00.11 7x6o0.10 b5uo0.11 7k800.10 b5uo0.11 7k800.10 b5uo0.11 7x6o0.10 " ++
      "asw00.11 7x6o0.10 asw00.11 7x6o0.10 asw00.11 7x6o0.10 b5uo0.11 7k800.10 b5uo0.11 7k800.10 " ++
      "b5uo0.11 7x6o0.10 asw00.11 7x6o0.10 asw00.11 7x6o0.10 b5uo0.11 7k800.10 b5uo0.11 7k800.10 " ++
      "b5uo0.11 7x6o0.10 asw00.11 7x6o0.10 asw00.11 7x6o0.10 asw00.11 7x6o0.10 b5uo0.11 7k800.10 " ++
      "b5uo0.11 7k800.10 b5uo0.11 7x6o0.10 asw00.11 7x6o0.10 asw00.11 7x6o0.10 b5uo0.11 7k800.10 " ++
      "b5uo0.11 7k800.10 b5uo0.11 7k800.10 b5uo0.11 7x6o0.10 asw00.11 7x6o0.10 asw00.11;GMT0BST,M3.5.0/1,M10.5.0",
    "Europe/Helsinki Europe/Mariehamn=5989,5989,10800d,7200,10800d,7200;-1bss9yd.1 mebs00.3 ax3tqd.2 " ++
      "9gqo0.3 k31s80.2 9d1c0.3 9d1c0.2 9d1c0.3 9d440.4 9d1c0.5 9d1c0.4 9q000.5 9d1c0.4 9d1c0.5 9d1c0.4 " ++
      "9d1c0.5 9d1c0.4 9d1c0.5 9d1c0.4 9d1c0.5 9d1c0.4 9d1c0.5 9d1c0.4 9q000.5 9d1c0.4 9d1c0.5 9d1c0.4 " ++
      "9d1c0.5 9d1c0.4 9d1c0.5 9d1c0.4 9d1c0.5 9d1c0.4 9d1c0.5 9q000.4 asw00.5 7x6o0.4 asw00.5 7x6o0.4 " ++
      "asw00.5 7x6o0.4 b5uo0.5 7k800.4 b5uo0.5 7k800.4 b5uo0.5 7x6o0.4 asw00.5 7x6o0.4 asw00.5 7x6o0.4 " ++
      "b5uo0.5 7k800.4 b5uo0.5 7k800.4 b5uo0.5 7k800.4 b5uo0.5 7x6o0.4 asw00.5 7x6o0.4 asw00.5 7x6o0.4 " ++
      "b5uo0.5 7k800.4 b5uo0.5 7k800.4 b5uo0.5 7x6o0.4 asw00.5 7x6o0.4 asw00.5 7x6o0.4 asw00.5 7x6o0.4 " ++
      "b5uo0.5 7k800.4 b5uo0.5 7k800.4 b5uo0.5 7x6o0.4 asw00.5 7x6o0.4 asw00.5 7x6o0.4 b5uo0.5 7k800.4 " ++
      "b5uo0.5 7k800.4 b5uo0.5 7x6o0.4 asw00.5 7x6o0.4 asw00.5 7x6o0.4 asw00.5 7x6o0.4 b5uo0.5 7k800.4 " ++
      "b5uo0.5 7k800.4 b5uo0.5 7x6o0.4 asw00.5 7x6o0.4 asw00.5 7x6o0.4 b5uo0.5 7k800.4 b5uo0.5 7k800.4 " ++
      "b5uo0.5 7k800.4 b5uo0.5 7x6o0.4 asw00.5 7x6o0.4 asw00.5;EET-2EEST,M3.5.0/3,M10.5.0/4",
    "Europe/Isle_of_Man=-1075,3600d,0,7200d,3600,3600d,0;-19a1gi5.2 haosq5.1 6uao0.2 9q000.1 8c000.2 " ++
      "9o5c0.1 9ruo0.2 9b6o0.1 9ew00.2 9b6o0.1 auqo0.2 88ao0.1 9ew00.2 8y800.1 a2yo0.2 a2yo0.1 7k800.2 " ++
      "asw00.1 8a5c0.2 asw00.1 8n400.2 a2yo0.1 8n400.2 9q000.1 902o0.2 afxc0.1 8n400.2 a2yo0.1 8n400.2 " ++
      "9q000.1 902o0.2 a2yo0.1 8n400.2 a2yo0.1 8n400.2 9q000.1 9d1c0.2 a2yo0.1 8n400.2 9q000.1 902o0.2 " ++
      "a2yo0.1 8n400.2 a2yo0.1 8n400.2 9q000.1 902o0.2 a2yo0.1 b5uo0.2 51hc0.1 mbmk0.3 51hc0.1 c8qo0.3 " ++
      "6hc00.1 c8qo0.3 6uao0.1 bvs00.3 8n400.1 a4tc0.3 5clc0.1 4bms0.2 9q000.1 902o0.2 8a5c0.1 1frw0.3 " ++
      "64dc0.1 4bms0.2 6uao0.1 bvs00.2 7x6o0.1 asw00.2 8n400.1 9q000.2 902o0.1 9q000.2 9d1c0.1 9q000.2 " ++
      "902o0.1 8n400.2 9q000.1 902o0.2 a2yo0.1 8n400.2 afxc0.1 8n400.2 9q000.1 902o0.2 a2yo0.1 8n400.2 " ++
      "a2yo0.1 8n400.2 9q000.1 902o0.2 902o0.1 b5uo0.2 7k800.1 b5uo0.2 7x6o0.1 asw00.2 7k800.1 b5uo0.2 " ++
      "7k800.1 b5uo0.2 7k800.1 b5uo0.2 7k800.1 bitc0.2 5reo0.1 cyfo0.4 1kjf00.6 779c0.1 bitc0.2 779c0.1 " ++
      "bitc0.2 779c0.1 bitc0.2 779c0.1 bitc0.2 7k800.1 b5uo0.2 7k800.1 b5uo0.2 7k800.1 bitc0.2 779c0.1 " ++
      "bitc0.2 779c0.1 bitc0.2 7x3w0.5 asw00.6 7x6o0.5 asw00.6 7x6o0.5 asw00.6 7x6o0.5 b5uo0.6 7x6o0.5 " ++
      "asw00.6 7x6o0.5 asw00.6 7x6o0.5 asw00.6 7x6o0.5 asw00.6 7x6o0.5 b5uo0.6 7k800.5 b5uo0.6 7x6o0.5 " ++
      "asw00.6 7x6o0.5 asw00.6 7x6o0.5 asw00.6 7x6o0.5 asw00.6 7x6o0.5 asw00.6 8a5c0.5 asw00.6 7x6o0.5 " ++
      "asw00.6 7x6o0.5 asw00.6 7x6o0.5 b5uo0.6 7k800.5 b5uo0.6 7k800.5 b5uo0.6 7x6o0.5 asw00.6 7x6o0.5 " ++
      "asw00.6 7x6o0.5 b5uo0.6 7k800.5 b5uo0.6 7k800.5 b5uo0.6 7k800.5 b5uo0.6 7x6o0.5 asw00.6 7x6o0.5 " ++
      "asw00.6 7x6o0.5 b5uo0.6 7k800.5 b5uo0.6 7k800.5 b5uo0.6 7x6o0.5 asw00.6 7x6o0.5 asw00.6 7x6o0.5 " ++
      "asw00.6 7x6o0.5 b5uo0.6 7k800.5 b5uo0.6 7k800.5 b5uo0.6 7x6o0.5 asw00.6 7x6o0.5 asw00.6 7x6o0.5 " ++
      "b5uo0.6 7k800.5 b5uo0.6 7k800.5 b5uo0.6 7x6o0.5 asw00.6 7x6o0.5 asw00.6 7x6o0.5 asw00.6 7x6o0.5 " ++
      "b5uo0.6 7k800.5 b5uo0.6 7k800.5 b5uo0.6 7x6o0.5 asw00.6 7x6o0.5 asw00.6 7x6o0.5 b5uo0.6 7k800.5 " ++
      "b5uo0.6 7k800.5 b5uo0.6 7k800.5 b5uo0.6 7x6o0.5 asw00.6 7x6o0.5 asw00.6;GMT0BST,M3.5.0/1,M10.5.0",
    "Europe/Jersey=-506,3600d,0,0,3600,7200d,7200d,7200d,7200d,3600,3600d,0;-11cerk0.3 9d23s0.1 " ++
      "6uao0.2 9q000.1 8c000.2 9o5c0.1 9ruo0.2 9b6o0.1 9ew00.2 9b6o0.1 auqo0.2 88ao0.1 9ew00.2 8y800.1 " ++
      "a2yo0.2 a2yo0.1 7k800.2 asw00.1 8a5c0.2 asw00.1 8n400.2 a2yo0.1 8n400.2 9q000.1 902o0.2 afxc0.1 " ++
      "8n400.2 a2yo0.1 8n400.2 9q000.1 902o0.2 a2yo0.1 8n400.2 a2yo0.1 8n400.2 9q000.1 9d1c0.2 a2yo0.1 " ++
      "8n400.2 9q000.1 902o0.2 a2yo0.1 8n400.2 a2yo0.1 8n400.2 9q000.1 902o0.2 a2yo0.1 b5uo0.2 51hc0.1 " ++
      "6kt00.6 17vs80.4 7k800.5 9q000.4 9d1c0.5 9d1c0.4 9d1c0.5 1ufo0.8 3i5o0.1 4bms0.2 9q000.1 902o0.2 " ++
      "8a5c0.1 1frw0.7 64dc0.1 4bms0.2 6uao0.1 bvs00.2 7x6o0.1 asw00.2 8n400.1 9q000.2 902o0.1 9q000.2 " ++
      "9d1c0.1 9q000.2 902o0.1 8n400.2 9q000.1 902o0.2 a2yo0.1 8n400.2 afxc0.1 8n400.2 9q000.1 902o0.2 " ++
      "a2yo0.1 8n400.2 a2yo0.1 8n400.2 9q000.1 902o0.2 902o0.1 b5uo0.2 7k800.1 b5uo0.2 7x6o0.1 asw00.2 " ++
      "7k800.1 b5uo0.2 7k800.1 b5uo0.2 7k800.1 b5uo0.2 7k800.1 bitc0.2 5reo0.1 cyfo0.9 1kjf00.3 779c0.1 " ++
      "bitc0.2 779c0.1 bitc0.2 779c0.1 bitc0.2 779c0.1 bitc0.2 7k800.1 b5uo0.2 7k800.1 b5uo0.2 7k800.1 " ++
      "bitc0.2 779c0.1 bitc0.2 779c0.1 bitc0.2 7x3w0.10 asw00.3 7x6o0.10 asw00.3 7x6o0.10 asw00.3 " ++
      "7x6o0.10 b5uo0.3 7x6o0.10 asw00.3 7x6o0.10 asw00.3 7x6o0.10 asw00.3 7x6o0.10 asw00.3 7x6o0.10 " ++
      "b5uo0.3 7k800.10 b5uo0.3 7x6o0.10 asw00.3 7x6o0.10 asw00.3 7x6o0.10 asw00.3 7x6o0.10 asw00.3 " ++
      "7x6o0.10 asw00.3 8a5c0.10 asw00.3 7x6o0.10 asw00.3 7x6o0.10 asw00.3 7x6o0.10 b5uo0.3 7k800.10 " ++
      "b5uo0.3 7k800.10 b5uo0.3 7x6o0.10 asw00.3 7x6o0.10 asw00.3 7x6o0.10 b5uo0.3 7k800.10 b5uo0.3 " ++
      "7k800.10 b5uo0.3 7k800.10 b5uo0.3 7x6o0.10 asw00.3 7x6o0.10 asw00.3 7x6o0.10 b5uo0.3 7k800.10 " ++
      "b5uo0.3 7k800.10 b5uo0.3 7x6o0.10 asw00.3 7x6o0.10 asw00.3 7x6o0.10 asw00.3 7x6o0.10 b5uo0.3 " ++
      "7k800.10 b5uo0.3 7k800.10 b5uo0.3 7x6o0.10 asw00.3 7x6o0.10 asw00.3 7x6o0.10 b5uo0.3 7k800.10 " ++
      "b5uo0.3 7k800.10 b5uo0.3 7x6o0.10 asw00.3 7x6o0.10 asw00.3 7x6o0.10 asw00.3 7x6o0.10 b5uo0.3 " ++
      "7k800.10 b5uo0.3 7k800.10 b5uo0.3 7x6o0.10 asw00.3 7x6o0.10 asw00.3 7x6o0.10 b5uo0.3 7k800.10 " ++
      "b5uo0.3 7k800.10 b5uo0.3 7k800.10 b5uo0.3 7x6o0.10 asw00.3 7x6o0.10 asw00.3;GMT0BST,M3.5.0/1,M10.5.0",
    "Europe/Kaliningrad=4920,7200d,3600,7200d,3600,10800d,7200,14400d,10800,10800,14400d,10800d,7200,10800,7200;-14212go.2 " ++
      "c1n28o.1 7ves0.2 a4yw0.3 7x6o0.4 asw00.3 7x6o0.4 b8qdc0.3 1cm000.4 7k800.3 9q000.4 9d1c0.3 " ++
      "9d1c0.4 9d1c0.3 el00.6 z6o0.5 9kd80.6 82tg0.8 i9avw0.7 9et80.8 9d440.7 9et80.8 9d440.7 9et80.8 " ++
      "9eys0.7 9d6w0.9 9d1c0.10 9d1c0.9 9d1c0.10 9d1c0.9 9d1c0.10 9d1c0.9 9d1c0.10 9d1c0.9 9d1c0.11 " ++
      "9d440.12 9d1c0.11 9q000.12 9d1c0.11 9d1c0.12 9d1c0.11 9d1c0.12 9d1c0.11 9d1c0.12 9d1c0.11 " ++
      "9d1c0.12 9d1c0.11 9d1c0.12 9q000.11 asw00.12 7x6o0.11 asw00.12 7x6o0.11 asw00.12 7x6o0.11 " ++
      "b5uo0.12 7k800.11 b5uo0.12 7k800.11 b5uo0.12 7x6o0.11 asw00.12 7x6o0.11 asw00.12 7x6o0.11 " ++
      "b5uo0.12 7k800.11 b5uo0.12 7k800.11 b5uo0.12 7k800.11 b5uo0.12 7x6o0.11 asw00.12 7x6o0.11 " ++
      "asw00.12 7x6o0.11 b5uo0.12 7k800.13 1vbzw0.12;EET-2",
    "Europe/Kiev Europe/Kyiv Europe/Uzhgorod Europe/Zaporozhye=7324,7324,7200,10800,3600,7200d,7200d,14400d,10800,14400d,1080" ++
      "0d,7200,10800d,7200,10800d;-1ayy8bg.1 n4x6o0.2 37a03g.3 5vd6k0.6 kzv40.4 7k800.5 9q000.4 1oyg0.3 " ++
      "jipzs0.7 9et80.3 9d440.7 9et80.3 9d440.7 9et80.3 9eys0.7 9d6w0.8 9d1c0.9 9d1c0.8 9d1c0.9 9d1c0.8 " ++
      "9d1c0.9 9d1c0.8 9d1c0.9 9d1c0.8 9d1c0.9 9d1c0.8 9d1c0.9 51ek0.10 neqw0.11 9d1c0.12 9d1c0.11 " ++
      "9d1c0.12 9d1c0.11 9d1c0.12 9d1c0.11 9d1c0.12 9d1c0.11 9q000.12 asys0.13 7x6o0.14 asw00.13 " ++
      "7x6o0.14 asw00.13 7x6o0.14 b5uo0.13 7k800.14 b5uo0.13 7k800.14 b5uo0.13 7x6o0.14 asw00.13 " ++
      "7x6o0.14 asw00.13 7x6o0.14 b5uo0.13 7k800.14 b5uo0.13 7k800.14 b5uo0.13 7k800.14 b5uo0.13 " ++
      "7x6o0.14 asw00.13 7x6o0.14 asw00.13 7x6o0.14 b5uo0.13 7k800.14 b5uo0.13 7k800.14 b5uo0.13 " ++
      "7x6o0.14 asw00.13 7x6o0.14 asw00.13 7x6o0.14 asw00.13 7x6o0.14 b5uo0.13 7k800.14 b5uo0.13 " ++
      "7k800.14 b5uo0.13 7x6o0.14 asw00.13 7x6o0.14 asw00.13 7x6o0.14 b5uo0.13 7k800.14 b5uo0.13 " ++
      "7k800.14 b5uo0.13 7x6o0.14 asw00.13 7x6o0.14 asw00.13 7x6o0.14 asw00.13 7x6o0.14 b5uo0.13 " ++
      "7k800.14 b5uo0.13 7k800.14 b5uo0.13 7x6o0.14 asw00.13 7x6o0.14 asw00.13 7x6o0.14 b5uo0.13 " ++
      "7k800.14 b5uo0.13 7k800.14 b5uo0.13 7k800.14 b5uo0.13 7x6o0.14 asw00.13 7x6o0.14 asw00.13;EET-2EEST,M3.5.0/3,M10.5.0/4",
    "Europe/Kirov=11928,10800,18000d,14400,14400,18000d,14400d,10800,14400,10800;-qcx400.1 5q5zo0.3 " ++
      "qi27w0.2 9et80.3 9d440.2 9et80.3 9d440.2 9et80.3 9eys0.2 9d6w0.4 9d1c0.5 9d1c0.4 9d1c0.5 9d1c0.4 " ++
      "9d1c0.5 9d1c0.4 9d1c0.5 9d1c0.4 9d1c0.6 9d440.7 9d1c0.6 9q000.7 9d1c0.4 ipzw0.6 9d440.7 9d1c0.6 " ++
      "9d1c0.7 9d1c0.6 9d1c0.7 9d1c0.6 9d1c0.7 9q000.6 asw00.7 7x6o0.6 asw00.7 7x6o0.6 asw00.7 7x6o0.6 " ++
      "b5uo0.7 7k800.6 b5uo0.7 7k800.6 b5uo0.7 7x6o0.6 asw00.7 7x6o0.6 asw00.7 7x6o0.6 b5uo0.7 7k800.6 " ++
      "b5uo0.7 7k800.6 b5uo0.7 7k800.6 b5uo0.7 7x6o0.6 asw00.7 7x6o0.6 asw00.7 7x6o0.6 b5uo0.7 7k800.8 " ++
      "1vbzw0.7;MSK-3",
    "Europe/Lisbon Portugal=-2205,3600d,0,3600d,0,7200d,0,3600,3600d,3600,7200d,3600d,0;-18vsgyr.0 " ++
      "em0zmr.6 2bufw0.1 6zxg0.2 66800.1 bq580.2 71s40.1 bq580.2 71s40.1 bq580.2 73ms0.1 bq580.2 " ++
      "71s40.1 bq580.2 1b2g00.3 8so00.4 st1c0.3 8n400.4 9q000.3 902o0.4 a2yo0.3 902o0.4 a2yo0.3 8n400.4 " ++
      "st1c0.3 8n400.4 9d1c0.3 9d1c0.4 sg2o0.3 9d1c0.4 902o0.3 9q000.4 a2yo0.3 8n400.4 9d1c0.3 9d1c0.4 " ++
      "902o0.3 9q000.4 a2yo0.3 b5uo0.4 51hc0.3 bmio0.4 99c00.3 9ew00.4 88ao0.3 25p80.5 5reo0.3 3lpg0.4 " ++
      "779c0.3 1sqk0.5 6uao0.3 38qs0.4 6uao0.3 25p80.5 6hc00.3 38qs0.4 6uao0.3 25p80.5 6hc00.3 38qs0.4 " ++
      "8a5c0.3 9d1c0.4 9d9o0.3 9d1c0.4 9d1c0.3 9d1c0.4 9d1c0.3 9d1c0.4 9d1c0.3 9d1c0.4 9d1c0.3 9q000.4 " ++
      "9d1c0.3 9d1c0.4 9d1c0.3 9d1c0.4 9d1c0.3 9d1c0.4 9d1c0.3 9d1c0.4 9d1c0.3 9q000.4 9d1c0.3 9d1c0.4 " ++
      "9d1c0.3 9d1c0.4 9d1c0.3 9d1c0.4 9d1c0.3 9d1c0.4 9d1c0.3 9d1c0.4 9d1c0.3 9q000.4 9d1c0.3 9d1c0.4 " ++
      "9d1c0.3 9d1c0.4 9d1c0.3 9d1c0.4 9d1c0.3 9d1c0.7 57ljs0.2 9d1c0.3 9d1c0.4 9q2s0.3 9d1c0.4 9d1c0.3 " ++
      "9d1c0.4 9q000.3 902o0.4 9cyk0.3 9d1c0.4 9d1c0.3 9d1c0.4 9d1c0.3 9d1c0.4 9d1c0.3 9q000.4 9d1c0.3 " ++
      "9d1c0.4 9d440.8 9d1c0.6 9d1c0.8 9d1c0.6 9d1c0.8 9d1c0.6 9d1c0.8 9d1c0.6 9d1c0.8 9q000.6 9d1c0.8 " ++
      "9d1c0.6 9d1c0.8 9d1c0.9 9d1c0.10 9d1c0.9 9d1c0.10 9d1c0.9 9d1c0.10 9d1c0.9 9q000.8 asw00.6 " ++
      "7x6o0.8 asw00.6 7x6o0.8 asw00.6 7x6o0.8 b5uo0.6 7k800.8 b5uo0.6 7k800.8 b5uo0.6 7x6o0.8 asw00.6 " ++
      "7x6o0.8 asw00.6 7x6o0.8 b5uo0.6 7k800.8 b5uo0.6 7k800.8 b5uo0.6 7k800.8 b5uo0.6 7x6o0.8 asw00.6 " ++
      "7x6o0.8 asw00.6 7x6o0.8 b5uo0.6 7k800.8 b5uo0.6 7k800.8 b5uo0.6 7x6o0.8 asw00.6 7x6o0.8 asw00.6 " ++
      "7x6o0.8 asw00.6 7x6o0.8 b5uo0.6 7k800.8 b5uo0.6 7k800.8 b5uo0.6 7x6o0.8 asw00.6 7x6o0.8 asw00.6 " ++
      "7x6o0.8 b5uo0.6 7k800.8 b5uo0.6 7k800.8 b5uo0.6 7x6o0.8 asw00.6 7x6o0.8 asw00.6 7x6o0.8 asw00.6 " ++
      "7x6o0.8 b5uo0.6 7k800.8 b5uo0.6 7k800.8 b5uo0.6 7x6o0.8 asw00.6 7x6o0.8 asw00.6 7x6o0.8 b5uo0.6 " ++
      "7k800.8 b5uo0.6 7k800.8 b5uo0.6 7k800.8 b5uo0.6 7x6o0.8 asw00.6 7x6o0.8 asw00.6;WET0WEST,M3.5.0/1,M10.5.0",
    "Europe/Ljubljana=3484,3600,3600,7200d,7200d,7200d,3600;-18vslcs.1 twhmgs.4 swz00.2 7k800.3 " ++
      "9q000.2 9d1c0.3 9d1c0.2 9d1c0.3 8l9c0.2 jl1hc0.5 9d1c0.6 9d1c0.5 9q000.6 9d1c0.5 9d1c0.6 9d1c0.5 " ++
      "9d1c0.6 9d1c0.5 9d1c0.6 9d1c0.5 9d1c0.6 9d1c0.5 9d1c0.6 9d1c0.5 9q000.6 9d1c0.5 9d1c0.6 9d1c0.5 " ++
      "9d1c0.6 9d1c0.5 9d1c0.6 9d1c0.5 9d1c0.6 9d1c0.5 9d1c0.6 9q000.5 asw00.6 7x6o0.5 asw00.6 7x6o0.5 " ++
      "asw00.6 7x6o0.5 b5uo0.6 7k800.5 b5uo0.6 7k800.5 b5uo0.6 7x6o0.5 asw00.6 7x6o0.5 asw00.6 7x6o0.5 " ++
      "b5uo0.6 7k800.5 b5uo0.6 7k800.5 b5uo0.6 7k800.5 b5uo0.6 7x6o0.5 asw00.6 7x6o0.5 asw00.6 7x6o0.5 " ++
      "b5uo0.6 7k800.5 b5uo0.6 7k800.5 b5uo0.6 7x6o0.5 asw00.6 7x6o0.5 asw00.6 7x6o0.5 asw00.6 7x6o0.5 " ++
      "b5uo0.6 7k800.5 b5uo0.6 7k800.5 b5uo0.6 7x6o0.5 asw00.6 7x6o0.5 asw00.6 7x6o0.5 b5uo0.6 7k800.5 " ++
      "b5uo0.6 7k800.5 b5uo0.6 7x6o0.5 asw00.6 7x6o0.5 asw00.6 7x6o0.5 asw00.6 7x6o0.5 b5uo0.6 7k800.5 " ++
      "b5uo0.6 7k800.5 b5uo0.6 7x6o0.5 asw00.6 7x6o0.5 asw00.6 7x6o0.5 b5uo0.6 7k800.5 b5uo0.6 7k800.5 " ++
      "b5uo0.6 7k800.5 b5uo0.6 7x6o0.5 asw00.6 7x6o0.5 asw00.6;CET-1CEST,M3.5.0,M10.5.0/3",
    "Europe/Luxembourg=1476,7200d,3600,7200d,3600,3600d,0,0,3600d,3600,7200d,7200d,7200d,3600;-y89550.2 " ++
      "68l290.1 75hg0.2 ast80.1 796s0.2 at1k0.3 7x6o0.4 3lh40.6 4zmo0.5 b6300.6 6u2c0.5 cytk0.6 7at40.5 " ++
      "bktk0.6 7rh40.5 a31g0.6 a2vw0.5 8n9k0.6 8zx40.5 9q2s0.6 9et80.5 9b9g0.6 a2vw0.5 8n6s0.6 9px80.5 " ++
      "905g0.6 a2vw0.5 905g0.6 a2vw0.5 8ncc0.7 9q000.8 902o0.7 a2yo0.8 8n400.7 9d1c0.8 9d1c0.7 902o0.8 " ++
      "a2yo0.7 9d1c0.8 9d1c0.7 902o0.8 9q000.7 a2yo0.8 8n400.7 9d1c0.8 9d1c0.7 902o0.8 9q000.7 a2yo0.8 " ++
      "b5uo0.7 51hc0.8 42ao0.11 1aeak0.9 7k800.10 9q000.9 9d1c0.10 8n400.2 a2yo0.3 8l9c0.4 clpc0.3 " ++
      "79400.4 fwu800.12 902o0.13 9q000.12 9d1c0.13 9d1c0.12 9d1c0.13 9q000.12 902o0.13 9d1c0.12 " ++
      "9d1c0.13 9d1c0.12 9d1c0.13 9d1c0.12 9d1c0.13 9d1c0.12 9q000.13 9d1c0.12 9d1c0.13 9d1c0.12 " ++
      "9d1c0.13 9d1c0.12 9d1c0.13 9d1c0.12 9d1c0.13 9d1c0.12 9d1c0.13 9d1c0.12 9q000.13 9d1c0.12 " ++
      "9d1c0.13 9d1c0.12 9d1c0.13 9d1c0.12 9d1c0.13 9d1c0.12 9d1c0.13 9d1c0.12 9d1c0.13 9q000.12 " ++
      "asw00.13 7x6o0.12 asw00.13 7x6o0.12 asw00.13 7x6o0.12 b5uo0.13 7k800.12 b5uo0.13 7k800.12 " ++
      "b5uo0.13 7x6o0.12 asw00.13 7x6o0.12 asw00.13 7x6o0.12 b5uo0.13 7k800.12 b5uo0.13 7k800.12 " ++
      "b5uo0.13 7k800.12 b5uo0.13 7x6o0.12 asw00.13 7x6o0.12 asw00.13 7x6o0.12 b5uo0.13 7k800.12 " ++
      "b5uo0.13 7k800.12 b5uo0.13 7x6o0.12 asw00.13 7x6o0.12 asw00.13 7x6o0.12 asw00.13 7x6o0.12 " ++
      "b5uo0.13 7k800.12 b5uo0.13 7k800.12 b5uo0.13 7x6o0.12 asw00.13 7x6o0.12 asw00.13 7x6o0.12 " ++
      "b5uo0.13 7k800.12 b5uo0.13 7k800.12 b5uo0.13 7x6o0.12 asw00.13 7x6o0.12 asw00.13 7x6o0.12 " ++
      "asw00.13 7x6o0.12 b5uo0.13 7k800.12 b5uo0.13 7k800.12 b5uo0.13 7x6o0.12 asw00.13 7x6o0.12 " ++
      "asw00.13 7x6o0.12 b5uo0.13 7k800.12 b5uo0.13 7k800.12 b5uo0.13 7k800.12 b5uo0.13 7x6o0.12 " ++
      "asw00.13 7x6o0.12 asw00.13;CET-1CEST,M3.5.0,M10.5.0/3",
    "Europe/Madrid=-884,3600d,0,7200d,0,7200d,3600,7200d,3600,7200d,3600;-100edc0.4 90sik0.1 8yas0.2 " ++
      "9cyk0.1 9eys0.2 2d2vw0.1 8sqs0.2 ssyk0.1 8n6s0.2 9px80.1 905g0.2 a2yo0.1 902o0.2 a2vw0.1 8n6s0.2 " ++
      "40lh80.1 5k2s0.2 9cyk0.1 1frw0.3 7z1c0.1 j1c80.2 8a2k0.6 13yt80.5 685g0.6 brzw0.5 8n6s0.6 " ++
      "a2vw0.5 8n6s0.6 a2vw0.5 8n6s0.6 a2vw0.5 8n6s0.6 1clx80.5 7x9g0.6 cswik0.5 905g0.6 9px80.5 " ++
      "905g0.6 8zzw0.5 9d440.6 9px80.5 905g0.6 9q5k0.7 9d1c0.8 9d1c0.9 9d1c0.10 9q000.9 902o0.10 " ++
      "9d1c0.9 9d1c0.10 9d1c0.9 9d1c0.10 9d1c0.9 9d1c0.10 9d1c0.9 9q000.10 9d1c0.9 9d1c0.10 9d1c0.9 " ++
      "9d1c0.10 9d1c0.9 9d1c0.10 9d1c0.9 9d1c0.10 9d1c0.9 9d1c0.10 9d1c0.9 9q000.10 9d1c0.9 9d1c0.10 " ++
      "9d1c0.9 9d1c0.10 9d1c0.9 9d1c0.10 9d1c0.9 9d1c0.10 9d1c0.9 9d1c0.10 9q000.9 asw00.10 7x6o0.9 " ++
      "asw00.10 7x6o0.9 asw00.10 7x6o0.9 b5uo0.10 7k800.9 b5uo0.10 7k800.9 b5uo0.10 7x6o0.9 asw00.10 " ++
      "7x6o0.9 asw00.10 7x6o0.9 b5uo0.10 7k800.9 b5uo0.10 7k800.9 b5uo0.10 7k800.9 b5uo0.10 7x6o0.9 " ++
      "asw00.10 7x6o0.9 asw00.10 7x6o0.9 b5uo0.10 7k800.9 b5uo0.10 7k800.9 b5uo0.10 7x6o0.9 asw00.10 " ++
      "7x6o0.9 asw00.10 7x6o0.9 asw00.10 7x6o0.9 b5uo0.10 7k800.9 b5uo0.10 7k800.9 b5uo0.10 7x6o0.9 " ++
      "asw00.10 7x6o0.9 asw00.10 7x6o0.9 b5uo0.10 7k800.9 b5uo0.10 7k800.9 b5uo0.10 7x6o0.9 asw00.10 " ++
      "7x6o0.9 asw00.10 7x6o0.9 asw00.10 7x6o0.9 b5uo0.10 7k800.9 b5uo0.10 7k800.9 b5uo0.10 7x6o0.9 " ++
      "asw00.10 7x6o0.9 asw00.10 7x6o0.9 b5uo0.10 7k800.9 b5uo0.10 7k800.9 b5uo0.10 7k800.9 b5uo0.10 " ++
      "7x6o0.9 asw00.10 7x6o0.9 asw00.10;CET-1CEST,M3.5.0,M10.5.0/3",
    "Europe/Malta=3484,7200d,3600,3600,7200d,7200d,3600;-13qyw0s.2 bsbx8s.1 64ak0.2 9d440.1 9et80.2 " ++
      "88dg0.1 aunw0.2 7ig40.1 b5rw0.2 8n6s0.1 9cyk0.2 aau2s0.1 18r9k0.3 7k800.4 9q000.3 9b6o0.4 " ++
      "8n400.3 a4tc0.1 8j940.2 9f1k0.4 afxc0.3 89zs0.4 afxc0.3 7kdk0.4 b5uo0.3 979rs0.4 6h980.2 cls40.4 " ++
      "64dc0.3 clpc0.4 64dc0.3 cyo00.4 64dc0.3 clpc0.4 64dc0.3 c8qo0.4 6hc00.3 clpc0.4 6hc00.3 9b6o0.4 " ++
      "9d1c0.3 ahs00.4 7m2o0.3 b45k0.1 7x3w0.2 asys0.1 7x3w0.2 asys0.1 7x3w0.2 asys0.1 7x3w0.2 asys0.1 " ++
      "7x3w0.2 a4w40.1 8y580.2 9q2s0.5 9d1c0.6 9d1c0.5 9d1c0.6 9d1c0.5 9d1c0.6 9d1c0.5 9q000.6 9d1c0.5 " ++
      "9d1c0.6 9d1c0.5 9d1c0.6 9d1c0.5 9d1c0.6 9d1c0.5 9d1c0.6 9d1c0.5 9d1c0.6 9d1c0.5 9q000.6 9d1c0.5 " ++
      "9d1c0.6 9d1c0.5 9d1c0.6 9d1c0.5 9d1c0.6 9d1c0.5 9d1c0.6 9d1c0.5 9d1c0.6 9q000.5 asw00.6 7x6o0.5 " ++
      "asw00.6 7x6o0.5 asw00.6 7x6o0.5 b5uo0.6 7k800.5 b5uo0.6 7k800.5 b5uo0.6 7x6o0.5 asw00.6 7x6o0.5 " ++
      "asw00.6 7x6o0.5 b5uo0.6 7k800.5 b5uo0.6 7k800.5 b5uo0.6 7k800.5 b5uo0.6 7x6o0.5 asw00.6 7x6o0.5 " ++
      "asw00.6 7x6o0.5 b5uo0.6 7k800.5 b5uo0.6 7k800.5 b5uo0.6 7x6o0.5 asw00.6 7x6o0.5 asw00.6 7x6o0.5 " ++
      "asw00.6 7x6o0.5 b5uo0.6 7k800.5 b5uo0.6 7k800.5 b5uo0.6 7x6o0.5 asw00.6 7x6o0.5 asw00.6 7x6o0.5 " ++
      "b5uo0.6 7k800.5 b5uo0.6 7k800.5 b5uo0.6 7x6o0.5 asw00.6 7x6o0.5 asw00.6 7x6o0.5 asw00.6 7x6o0.5 " ++
      "b5uo0.6 7k800.5 b5uo0.6 7k800.5 b5uo0.6 7x6o0.5 asw00.6 7x6o0.5 asw00.6 7x6o0.5 b5uo0.6 7k800.5 " ++
      "b5uo0.6 7k800.5 b5uo0.6 7k800.5 b5uo0.6 7x6o0.5 asw00.6 7x6o0.5 asw00.6;CET-1CEST,M3.5.0,M10.5.0/3",
    "Europe/Minsk=6616,6600,7200,10800,3600,7200d,7200d,14400d,10800,14400d,10800d,7200,10800;-1ayy7rs.1 " ++
      "n4x6og.2 379zjc.3 5r1mk0.6 pbf40.4 7k800.5 9q000.4 9d1c0.5 4oac0.3 j6dmk0.7 9et80.3 9d440.7 " ++
      "9et80.3 9d440.7 9et80.3 9eys0.7 9d6w0.8 9d1c0.9 9d1c0.8 9d1c0.9 9d1c0.8 9d1c0.9 9d1c0.8 9d1c0.9 " ++
      "9d1c0.8 9d1c0.9 9d1c0.8 sg2o0.10 9d440.11 9d1c0.10 9d1c0.11 9d1c0.10 9d1c0.11 9d1c0.10 9d1c0.11 " ++
      "9d1c0.10 9d1c0.11 9q000.10 asw00.11 7x6o0.10 asw00.11 7x6o0.10 asw00.11 7x6o0.10 b5uo0.11 " ++
      "7k800.10 b5uo0.11 7k800.10 b5uo0.11 7x6o0.10 asw00.11 7x6o0.10 asw00.11 7x6o0.10 b5uo0.11 " ++
      "7k800.10 b5uo0.11 7k800.10 b5uo0.11 7k800.10 b5uo0.11 7x6o0.10 asw00.11 7x6o0.10 asw00.11 " ++
      "7x6o0.10 b5uo0.11 7k800.12 dzv4zj.12;<+03>-3",
    "Europe/Monaco=1772,561,3600d,0,3600d,7200d,0,7200d,3600,7200d,3600;-14hnyp8.1 9tlnln.6 2pzpnl.2 " ++
      "5luo0.3 8y800.2 a4tc0.3 7vc00.2 auqo0.3 7idc0.2 b7pc0.3 6sg00.2 cyo00.3 7ayo0.2 bko00.3 7rmo0.2 " ++
      "a2yo0.3 bvs00.2 6uao0.3 902o0.2 9q000.3 9d1c0.2 9d1c0.3 a2yo0.2 8n400.3 9q000.2 902o0.3 a2yo0.2 " ++
      "902o0.3 a2yo0.2 8n400.3 9q000.2 902o0.3 a2yo0.2 8n400.3 9d1c0.2 9d1c0.3 902o0.2 a2yo0.3 9d1c0.2 " ++
      "9d1c0.3 902o0.2 9q000.3 a2yo0.2 8n400.3 9d1c0.2 9d1c0.3 902o0.2 9q000.3 a2yo0.2 b5uo0.3 51po0.4 " ++
      "mdbo0.5 7x3w0.4 7x9g0.5 c8w80.4 7k800.5 9q000.4 9d1c0.5 9nzs0.4 922w0.5 8l9c0.8 fxlx80.7 9cyk0.8 " ++
      "9q5k0.9 902o0.10 9q000.9 9d1c0.10 9d1c0.9 9d1c0.10 9q000.9 902o0.10 9d1c0.9 9d1c0.10 9d1c0.9 " ++
      "9d1c0.10 9d1c0.9 9d1c0.10 9d1c0.9 9q000.10 9d1c0.9 9d1c0.10 9d1c0.9 9d1c0.10 9d1c0.9 9d1c0.10 " ++
      "9d1c0.9 9d1c0.10 9d1c0.9 9d1c0.10 9d1c0.9 9q000.10 9d1c0.9 9d1c0.10 9d1c0.9 9d1c0.10 9d1c0.9 " ++
      "9d1c0.10 9d1c0.9 9d1c0.10 9d1c0.9 9d1c0.10 9q000.9 asw00.10 7x6o0.9 asw00.10 7x6o0.9 asw00.10 " ++
      "7x6o0.9 b5uo0.10 7k800.9 b5uo0.10 7k800.9 b5uo0.10 7x6o0.9 asw00.10 7x6o0.9 asw00.10 7x6o0.9 " ++
      "b5uo0.10 7k800.9 b5uo0.10 7k800.9 b5uo0.10 7k800.9 b5uo0.10 7x6o0.9 asw00.10 7x6o0.9 asw00.10 " ++
      "7x6o0.9 b5uo0.10 7k800.9 b5uo0.10 7k800.9 b5uo0.10 7x6o0.9 asw00.10 7x6o0.9 asw00.10 7x6o0.9 " ++
      "asw00.10 7x6o0.9 b5uo0.10 7k800.9 b5uo0.10 7k800.9 b5uo0.10 7x6o0.9 asw00.10 7x6o0.9 asw00.10 " ++
      "7x6o0.9 b5uo0.10 7k800.9 b5uo0.10 7k800.9 b5uo0.10 7x6o0.9 asw00.10 7x6o0.9 asw00.10 7x6o0.9 " ++
      "asw00.10 7x6o0.9 b5uo0.10 7k800.9 b5uo0.10 7k800.9 b5uo0.10 7x6o0.9 asw00.10 7x6o0.9 asw00.10 " ++
      "7x6o0.9 b5uo0.10 7k800.9 b5uo0.10 7k800.9 b5uo0.10 7k800.9 b5uo0.10 7x6o0.9 asw00.10 7x6o0.9 " ++
      "asw00.10;CET-1CEST,M3.5.0,M10.5.0/3",
    "Europe/Moscow W-SU=9017,9017,12679d,9079,16279d,14400d,10800,14400d,18000d,7200,10800,14400d,10800d,7200,14400,14400d,10" ++
      "800;-1ayy9mh.1 j1sw00.3 ipzua.2 97hc0.3 7yyk0.4 5i840.2 d9p80.4 1jwk7.5 2cvk0.6 s8o00.7 1qvw0.8 " ++
      "8fpc0.7 1jms0.6 is040.9 412as0.6 qi27w0.7 9et80.6 9d440.7 9et80.6 9d440.7 9et80.6 9eys0.7 " ++
      "9d6w0.10 9d1c0.11 9d1c0.10 9d1c0.11 9d1c0.10 9d1c0.11 9d1c0.10 9d1c0.11 9d1c0.10 9d1c0.11 " ++
      "9d1c0.10 9d1c0.11 9q000.10 9d1c0.12 9d440.13 5reo0.10 3ljw0.11 9d1c0.10 9d1c0.11 9d1c0.10 " ++
      "9d1c0.11 9d1c0.10 9d1c0.11 9d1c0.10 9q000.11 asw00.10 7x6o0.11 asw00.10 7x6o0.11 asw00.10 " ++
      "7x6o0.11 b5uo0.10 7k800.11 b5uo0.10 7k800.11 b5uo0.10 7x6o0.11 asw00.10 7x6o0.11 asw00.10 " ++
      "7x6o0.11 b5uo0.10 7k800.11 b5uo0.10 7k800.11 b5uo0.10 7k800.11 b5uo0.10 7x6o0.11 asw00.10 " ++
      "7x6o0.11 asw00.10 7x6o0.11 b5uo0.10 7k800.14 1vbzw0.10;MSK-3",
    "Europe/Oslo=2580,7200d,3600,3600,7200d,7200d,3600;-1353tzo.2 b5svbo.1 6qfs0.2 cgcqo0.1 15tsc0.3 " ++
      "7k800.4 9q000.3 9d1c0.4 9d1c0.3 9d1c0.4 9d1c0.3 70q5c0.4 9q000.3 9d1c0.4 9d1c0.3 9d1c0.4 9d1c0.3 " ++
      "9d1c0.4 9d1c0.3 9d1c0.4 9d1c0.3 9d1c0.4 9q000.3 b5uo0.4 7k800.3 7law00.5 902o0.6 9d1c0.5 9d1c0.6 " ++
      "9d1c0.5 9d1c0.6 9d1c0.5 9d1c0.6 9d1c0.5 9q000.6 9d1c0.5 9d1c0.6 9d1c0.5 9d1c0.6 9d1c0.5 9d1c0.6 " ++
      "9d1c0.5 9d1c0.6 9d1c0.5 9d1c0.6 9d1c0.5 9q000.6 9d1c0.5 9d1c0.6 9d1c0.5 9d1c0.6 9d1c0.5 9d1c0.6 " ++
      "9d1c0.5 9d1c0.6 9d1c0.5 9d1c0.6 9q000.5 asw00.6 7x6o0.5 asw00.6 7x6o0.5 asw00.6 7x6o0.5 b5uo0.6 " ++
      "7k800.5 b5uo0.6 7k800.5 b5uo0.6 7x6o0.5 asw00.6 7x6o0.5 asw00.6 7x6o0.5 b5uo0.6 7k800.5 b5uo0.6 " ++
      "7k800.5 b5uo0.6 7k800.5 b5uo0.6 7x6o0.5 asw00.6 7x6o0.5 asw00.6 7x6o0.5 b5uo0.6 7k800.5 b5uo0.6 " ++
      "7k800.5 b5uo0.6 7x6o0.5 asw00.6 7x6o0.5 asw00.6 7x6o0.5 asw00.6 7x6o0.5 b5uo0.6 7k800.5 b5uo0.6 " ++
      "7k800.5 b5uo0.6 7x6o0.5 asw00.6 7x6o0.5 asw00.6 7x6o0.5 b5uo0.6 7k800.5 b5uo0.6 7k800.5 b5uo0.6 " ++
      "7x6o0.5 asw00.6 7x6o0.5 asw00.6 7x6o0.5 asw00.6 7x6o0.5 b5uo0.6 7k800.5 b5uo0.6 7k800.5 b5uo0.6 " ++
      "7x6o0.5 asw00.6 7x6o0.5 asw00.6 7x6o0.5 b5uo0.6 7k800.5 b5uo0.6 7k800.5 b5uo0.6 7k800.5 b5uo0.6 " ++
      "7x6o0.5 asw00.6 7x6o0.5 asw00.6;CET-1CEST,M3.5.0,M10.5.0/3",
    "Europe/Paris=561,561,3600d,0,3600d,0,3600,7200d,7200d,7200d,3600,7200d,3600;-154gb3l.1 afgo00.5 " ++
      "2qx1nl.2 5luo0.3 8y800.2 a4tc0.3 7vc00.2 auqo0.3 7idc0.2 b7pc0.3 6sg00.2 cyo00.3 7ayo0.2 bko00.3 " ++
      "7rmo0.2 a2yo0.3 bvs00.2 6uao0.3 902o0.2 9q000.3 9d1c0.2 9d1c0.3 a2yo0.2 8n400.3 9q000.2 902o0.3 " ++
      "a2yo0.2 902o0.3 a2yo0.2 8n400.3 9q000.2 902o0.3 a2yo0.2 8n400.3 9d1c0.2 9d1c0.3 902o0.2 a2yo0.3 " ++
      "9d1c0.2 9d1c0.3 902o0.2 9q000.3 a2yo0.2 8n400.3 9d1c0.2 9d1c0.3 902o0.2 9q000.3 a2yo0.2 b5uo0.3 " ++
      "51po0.4 5p8w0.8 18rcc0.6 7k800.7 9q000.6 9d1c0.7 7efo0.9 29k40.4 922w0.9 8l9c0.10 fxlx80.8 " ++
      "9cyk0.10 9q5k0.11 902o0.12 9q000.11 9d1c0.12 9d1c0.11 9d1c0.12 9q000.11 902o0.12 9d1c0.11 " ++
      "9d1c0.12 9d1c0.11 9d1c0.12 9d1c0.11 9d1c0.12 9d1c0.11 9q000.12 9d1c0.11 9d1c0.12 9d1c0.11 " ++
      "9d1c0.12 9d1c0.11 9d1c0.12 9d1c0.11 9d1c0.12 9d1c0.11 9d1c0.12 9d1c0.11 9q000.12 9d1c0.11 " ++
      "9d1c0.12 9d1c0.11 9d1c0.12 9d1c0.11 9d1c0.12 9d1c0.11 9d1c0.12 9d1c0.11 9d1c0.12 9q000.11 " ++
      "asw00.12 7x6o0.11 asw00.12 7x6o0.11 asw00.12 7x6o0.11 b5uo0.12 7k800.11 b5uo0.12 7k800.11 " ++
      "b5uo0.12 7x6o0.11 asw00.12 7x6o0.11 asw00.12 7x6o0.11 b5uo0.12 7k800.11 b5uo0.12 7k800.11 " ++
      "b5uo0.12 7k800.11 b5uo0.12 7x6o0.11 asw00.12 7x6o0.11 asw00.12 7x6o0.11 b5uo0.12 7k800.11 " ++
      "b5uo0.12 7k800.11 b5uo0.12 7x6o0.11 asw00.12 7x6o0.11 asw00.12 7x6o0.11 asw00.12 7x6o0.11 " ++
      "b5uo0.12 7k800.11 b5uo0.12 7k800.11 b5uo0.12 7x6o0.11 asw00.12 7x6o0.11 asw00.12 7x6o0.11 " ++
      "b5uo0.12 7k800.11 b5uo0.12 7k800.11 b5uo0.12 7x6o0.11 asw00.12 7x6o0.11 asw00.12 7x6o0.11 " ++
      "asw00.12 7x6o0.11 b5uo0.12 7k800.11 b5uo0.12 7k800.11 b5uo0.12 7x6o0.11 asw00.12 7x6o0.11 " ++
      "asw00.12 7x6o0.11 b5uo0.12 7k800.11 b5uo0.12 7k800.11 b5uo0.12 7k800.11 b5uo0.12 7x6o0.11 " ++
      "asw00.12 7x6o0.11 asw00.12;CET-1CEST,M3.5.0,M10.5.0/3",
    "Europe/Riga=5794,5794,9394d,7200,10800,3600,7200d,7200d,14400d,10800,14400d,10800d,7200,10800d,7200;-1ayy74y.1 " ++
      "jzalk0.2 7x6o0.1 a4tc0.2 2mg00.1 3myns0.3 7fhlky.4 gz180.7 p5v40.5 7k800.6 9q000.5 9d1c0.6 " ++
      "9d1c0.5 k7s0.4 j14ns0.8 9et80.4 9d440.8 9et80.4 9d440.8 9et80.4 9eys0.8 9d6w0.9 9d1c0.10 9d1c0.9 " ++
      "9d1c0.10 9d1c0.9 9d1c0.10 9d1c0.9 9d1c0.10 9d1c0.9 9d1c0.11 9d440.12 9d1c0.11 9q000.12 9d1c0.11 " ++
      "9d1c0.12 9d1c0.11 9d1c0.12 9d1c0.11 9d1c0.12 9d1c0.11 9d1c0.12 9d1c0.11 9d1c0.12 9q000.11 " ++
      "9d1c0.12 9d440.13 asw00.14 7x6o0.13 asw00.14 7x6o0.13 b5uo0.14 qaao0.13 b5uo0.14 7x6o0.13 " ++
      "asw00.14 7x6o0.13 asw00.14 7x6o0.13 b5uo0.14 7k800.13 b5uo0.14 7k800.13 b5uo0.14 7k800.13 " ++
      "b5uo0.14 7x6o0.13 asw00.14 7x6o0.13 asw00.14 7x6o0.13 b5uo0.14 7k800.13 b5uo0.14 7k800.13 " ++
      "b5uo0.14 7x6o0.13 asw00.14 7x6o0.13 asw00.14 7x6o0.13 asw00.14 7x6o0.13 b5uo0.14 7k800.13 " ++
      "b5uo0.14 7k800.13 b5uo0.14 7x6o0.13 asw00.14 7x6o0.13 asw00.14 7x6o0.13 b5uo0.14 7k800.13 " ++
      "b5uo0.14 7k800.13 b5uo0.14 7x6o0.13 asw00.14 7x6o0.13 asw00.14 7x6o0.13 asw00.14 7x6o0.13 " ++
      "b5uo0.14 7k800.13 b5uo0.14 7k800.13 b5uo0.14 7x6o0.13 asw00.14 7x6o0.13 asw00.14 7x6o0.13 " ++
      "b5uo0.14 7k800.13 b5uo0.14 7k800.13 b5uo0.14 7k800.13 b5uo0.14 7x6o0.13 asw00.14 7x6o0.13 " ++
      "asw00.14;EET-2EEST,M3.5.0/3,M10.5.0/4",
    "Europe/Rome Europe/San_Marino Europe/Vatican=2996,2996,7200d,3600,3600,7200d,3600,7200d;-1hs7rn8.1 " ++
      "e170v8.6 bsds00.2 64ak0.3 9d440.2 9et80.3 88dg0.2 aunw0.3 7ig40.2 b5rw0.3 8n6s0.2 9cyk0.3 " ++
      "aau2s0.2 18r9k0.4 7k800.5 9q000.4 9d1c0.5 8l9c0.4 a4tc0.2 8j940.3 9f1k0.5 afxc0.4 89zs0.5 " ++
      "afxc0.4 7kdk0.5 b5uo0.4 979rs0.5 6h980.3 cls40.5 64dc0.4 clpc0.5 64dc0.4 cyo00.5 64dc0.4 clpc0.5 " ++
      "64dc0.4 c8qo0.5 6hc00.4 clpc0.5 6hc00.4 clpc0.5 64dc0.4 c8qo0.5 6hc00.4 clpc0.5 64dc0.4 clpc0.5 " ++
      "64dc0.4 c8qo0.5 6hc00.4 clpc0.5 6hc00.4 c8qo0.5 6hc00.4 9q5k0.7 902o0.6 9d1c0.7 9d1c0.6 9d1c0.7 " ++
      "9d1c0.6 9d1c0.7 9d1c0.6 9d1c0.7 9q000.6 9d1c0.7 9d1c0.6 9d1c0.7 9d1c0.6 9d1c0.7 9d1c0.6 9d1c0.7 " ++
      "9d1c0.6 9d1c0.7 9d1c0.6 9d1c0.7 9q000.6 9d1c0.7 9d1c0.6 9d1c0.7 9d1c0.6 9d1c0.7 9d1c0.6 9d1c0.7 " ++
      "9d1c0.6 9d1c0.7 9d1c0.6 9q000.7 asw00.6 7x6o0.7 asw00.6 7x6o0.7 asw00.6 7x6o0.7 b5uo0.6 7k800.7 " ++
      "b5uo0.6 7k800.7 b5uo0.6 7x6o0.7 asw00.6 7x6o0.7 asw00.6 7x6o0.7 b5uo0.6 7k800.7 b5uo0.6 7k800.7 " ++
      "b5uo0.6 7k800.7 b5uo0.6 7x6o0.7 asw00.6 7x6o0.7 asw00.6 7x6o0.7 b5uo0.6 7k800.7 b5uo0.6 7k800.7 " ++
      "b5uo0.6 7x6o0.7 asw00.6 7x6o0.7 asw00.6 7x6o0.7 asw00.6 7x6o0.7 b5uo0.6 7k800.7 b5uo0.6 7k800.7 " ++
      "b5uo0.6 7x6o0.7 asw00.6 7x6o0.7 asw00.6 7x6o0.7 b5uo0.6 7k800.7 b5uo0.6 7k800.7 b5uo0.6 7x6o0.7 " ++
      "asw00.6 7x6o0.7 asw00.6 7x6o0.7 asw00.6 7x6o0.7 b5uo0.6 7k800.7 b5uo0.6 7k800.7 b5uo0.6 7x6o0.7 " ++
      "asw00.6 7x6o0.7 asw00.6 7x6o0.7 b5uo0.6 7k800.7 b5uo0.6 7k800.7 b5uo0.6 7k800.7 b5uo0.6 7x6o0.7 " ++
      "asw00.6 7x6o0.7 asw00.6;CET-1CEST,M3.5.0,M10.5.0/3",
    "Europe/Samara=12020,10800,14400,18000d,14400,18000d,14400d,10800,10800d,14400d,14400;-qcx400.1 " ++
      "5q5zo0.2 qi27w0.3 9et80.2 9d440.3 9et80.2 9d440.3 9et80.2 9eys0.3 9d6w0.4 9d1c0.5 9d1c0.4 " ++
      "9d1c0.5 9d1c0.4 9d1c0.5 9d1c0.4 9d1c0.5 9d1c0.4 9d1c0.6 9d440.7 9d1c0.6 9q000.7 9d1c0.8 9d440.7 " ++
      "12w00.2 89zs0.5 9d1c0.4 9d1c0.5 9d1c0.4 9d1c0.5 9d1c0.4 9d1c0.5 9d1c0.4 9q000.5 asw00.4 7x6o0.5 " ++
      "asw00.4 7x6o0.5 asw00.4 7x6o0.5 b5uo0.4 7k800.5 b5uo0.4 7k800.5 b5uo0.4 7x6o0.5 asw00.4 7x6o0.5 " ++
      "asw00.4 7x6o0.5 b5uo0.4 7k800.5 b5uo0.4 7k800.5 b5uo0.4 7k800.5 b5uo0.4 7x6o0.5 asw00.4 7x6o0.5 " ++
      "asw00.4 7x6o0.6 b5xg0.7 7k800.4 dzv7rj.4;<+04>-4",
    "Europe/Sarajevo=4420,3600,3600,7200d,7200d,7200d,3600;-18vsm2s.1 twhn6s.4 swz00.2 7k800.3 " ++
      "9q000.2 9d1c0.3 9d1c0.2 9d1c0.3 8l9c0.2 jl1hc0.5 9d1c0.6 9d1c0.5 9q000.6 9d1c0.5 9d1c0.6 9d1c0.5 " ++
      "9d1c0.6 9d1c0.5 9d1c0.6 9d1c0.5 9d1c0.6 9d1c0.5 9d1c0.6 9d1c0.5 9q000.6 9d1c0.5 9d1c0.6 9d1c0.5 " ++
      "9d1c0.6 9d1c0.5 9d1c0.6 9d1c0.5 9d1c0.6 9d1c0.5 9d1c0.6 9q000.5 asw00.6 7x6o0.5 asw00.6 7x6o0.5 " ++
      "asw00.6 7x6o0.5 b5uo0.6 7k800.5 b5uo0.6 7k800.5 b5uo0.6 7x6o0.5 asw00.6 7x6o0.5 asw00.6 7x6o0.5 " ++
      "b5uo0.6 7k800.5 b5uo0.6 7k800.5 b5uo0.6 7k800.5 b5uo0.6 7x6o0.5 asw00.6 7x6o0.5 asw00.6 7x6o0.5 " ++
      "b5uo0.6 7k800.5 b5uo0.6 7k800.5 b5uo0.6 7x6o0.5 asw00.6 7x6o0.5 asw00.6 7x6o0.5 asw00.6 7x6o0.5 " ++
      "b5uo0.6 7k800.5 b5uo0.6 7k800.5 b5uo0.6 7x6o0.5 asw00.6 7x6o0.5 asw00.6 7x6o0.5 b5uo0.6 7k800.5 " ++
      "b5uo0.6 7k800.5 b5uo0.6 7x6o0.5 asw00.6 7x6o0.5 asw00.6 7x6o0.5 asw00.6 7x6o0.5 b5uo0.6 7k800.5 " ++
      "b5uo0.6 7k800.5 b5uo0.6 7x6o0.5 asw00.6 7x6o0.5 asw00.6 7x6o0.5 b5uo0.6 7k800.5 b5uo0.6 7k800.5 " ++
      "b5uo0.6 7k800.5 b5uo0.6 7x6o0.5 asw00.6 7x6o0.5 asw00.6;CET-1CEST,M3.5.0,M10.5.0/3",
    "Europe/Saratov=11058,10800,18000d,14400,14400,18000d,14400d,10800,14400;-qcx400.1 5q5zo0.3 " ++
      "qi27w0.2 9et80.3 9d440.2 9et80.3 9d440.2 9et80.3 9eys0.2 9d6w0.4 9d1c0.5 9d1c0.4 9d1c0.5 9d1c0.4 " ++
      "9d1c0.5 9d1c0.4 9d1c0.6 9d440.7 9d1c0.6 9d1c0.7 9d1c0.6 9q000.7 9d1c0.4 ipzw0.6 9d440.7 9d1c0.6 " ++
      "9d1c0.7 9d1c0.6 9d1c0.7 9d1c0.6 9d1c0.7 9q000.6 asw00.7 7x6o0.6 asw00.7 7x6o0.6 asw00.7 7x6o0.6 " ++
      "b5uo0.7 7k800.6 b5uo0.7 7k800.6 b5uo0.7 7x6o0.6 asw00.7 7x6o0.6 asw00.7 7x6o0.6 b5uo0.7 7k800.6 " ++
      "b5uo0.7 7k800.6 b5uo0.7 7k800.6 b5uo0.7 7x6o0.6 asw00.7 7x6o0.6 asw00.7 7x6o0.6 b5uo0.7 7k800.4 " ++
      "1vbzw0.7 13m040.4 b0x7rj.4;<+04>-4",
    "Europe/Simferopol=8184,8160,7200,10800,3600,7200d,7200d,14400d,10800,14400d,10800d,7200,10800d,7200,14400,10800;-1ayy8zc" ++
      ".1 n4x6oo.2 37a0qo.3 5xiyk0.6 iu340.4 7k800.5 9q000.4 9d1c0.5 iac0.3 jajmk0.7 9et80.3 9d440.7 " ++
      "9et80.3 9d440.7 9et80.3 9eys0.7 9d6w0.8 9d1c0.9 9d1c0.8 9d1c0.9 9d1c0.8 9d1c0.9 9d1c0.8 9d1c0.9 " ++
      "9d1c0.8 9d1c0.9 9d1c0.8 eeio0.2 wrpg0.10 9d1c0.11 9d1c0.10 9d1c0.11 9d1c0.10 1sl00.7 7kdk0.8 " ++
      "9d1c0.9 9d1c0.8 9pug0.9 at4c0.8 7x9g0.12 asw00.13 7x6o0.12 asw00.13 7x6o0.12 b5uo0.13 7k800.12 " ++
      "b5uo0.13 7k800.12 b5uo0.13 7x6o0.12 asw00.13 7x6o0.12 asw00.13 7x6o0.12 b5uo0.13 7k800.12 " ++
      "b5uo0.13 7k800.12 b5uo0.13 7k800.12 b5uo0.13 7x6o0.12 asw00.13 7x6o0.12 asw00.13 7x6o0.12 " ++
      "b5uo0.13 7k800.12 b5uo0.13 7k800.12 b5uo0.13 7x6o0.12 asw00.13 7x3w0.14 asqg0.8;MSK-3",
    "Europe/Skopje=5144,3600,3600,7200d,7200d,7200d,3600;-18vsmmw.1 twhnqw.4 swz00.2 7k800.3 9q000.2 " ++
      "9d1c0.3 9d1c0.2 9d1c0.3 8l9c0.2 jl1hc0.5 9d1c0.6 9d1c0.5 9q000.6 9d1c0.5 9d1c0.6 9d1c0.5 9d1c0.6 " ++
      "9d1c0.5 9d1c0.6 9d1c0.5 9d1c0.6 9d1c0.5 9d1c0.6 9d1c0.5 9q000.6 9d1c0.5 9d1c0.6 9d1c0.5 9d1c0.6 " ++
      "9d1c0.5 9d1c0.6 9d1c0.5 9d1c0.6 9d1c0.5 9d1c0.6 9q000.5 asw00.6 7x6o0.5 asw00.6 7x6o0.5 asw00.6 " ++
      "7x6o0.5 b5uo0.6 7k800.5 b5uo0.6 7k800.5 b5uo0.6 7x6o0.5 asw00.6 7x6o0.5 asw00.6 7x6o0.5 b5uo0.6 " ++
      "7k800.5 b5uo0.6 7k800.5 b5uo0.6 7k800.5 b5uo0.6 7x6o0.5 asw00.6 7x6o0.5 asw00.6 7x6o0.5 b5uo0.6 " ++
      "7k800.5 b5uo0.6 7k800.5 b5uo0.6 7x6o0.5 asw00.6 7x6o0.5 asw00.6 7x6o0.5 asw00.6 7x6o0.5 b5uo0.6 " ++
      "7k800.5 b5uo0.6 7k800.5 b5uo0.6 7x6o0.5 asw00.6 7x6o0.5 asw00.6 7x6o0.5 b5uo0.6 7k800.5 b5uo0.6 " ++
      "7k800.5 b5uo0.6 7x6o0.5 asw00.6 7x6o0.5 asw00.6 7x6o0.5 asw00.6 7x6o0.5 b5uo0.6 7k800.5 b5uo0.6 " ++
      "7k800.5 b5uo0.6 7x6o0.5 asw00.6 7x6o0.5 asw00.6 7x6o0.5 b5uo0.6 7k800.5 b5uo0.6 7k800.5 b5uo0.6 " ++
      "7k800.5 b5uo0.6 7x6o0.5 asw00.6 7x6o0.5 asw00.6;CET-1CEST,M3.5.0,M10.5.0/3",
    "Europe/Sofia=5596,7016,7200,3600,7200d,10800d,7200,10800d,10800d,7200;-1ayy6zg.1 7s708k.2 " ++
      "p0d6uw.3 7k800.4 9q000.3 9d1c0.4 9d1c0.3 9d440.2 hqq240.5 9eys0.2 9o2k0.5 92040.2 9o2k0.5 " ++
      "90880.2 9pug0.5 90b00.6 9d1c0.7 9d1c0.6 9d1c0.7 9q000.6 9d1c0.7 9d1c0.6 9d1c0.7 9d1c0.6 9d1c0.7 " ++
      "9d1c0.6 9d1c0.7 9d1c0.6 9d1c0.7 9d1c0.6 9d1c0.7 9q000.6 9cvs0.5 9cyk0.2 9d440.5 9cyk0.2 9d440.5 " ++
      "9cyk0.2 9d440.5 9cyk0.2 9d440.5 9cyk0.2 9q2s0.5 ast80.2 7xhs0.8 asw00.9 7x6o0.8 asw00.9 7x6o0.8 " ++
      "b5uo0.9 7k800.8 b5uo0.9 7k800.8 b5uo0.9 7x6o0.8 asw00.9 7x6o0.8 asw00.9 7x6o0.8 b5uo0.9 7k800.8 " ++
      "b5uo0.9 7k800.8 b5uo0.9 7k800.8 b5uo0.9 7x6o0.8 asw00.9 7x6o0.8 asw00.9 7x6o0.8 b5uo0.9 7k800.8 " ++
      "b5uo0.9 7k800.8 b5uo0.9 7x6o0.8 asw00.9 7x6o0.8 asw00.9 7x6o0.8 asw00.9 7x6o0.8 b5uo0.9 7k800.8 " ++
      "b5uo0.9 7k800.8 b5uo0.9 7x6o0.8 asw00.9 7x6o0.8 asw00.9 7x6o0.8 b5uo0.9 7k800.8 b5uo0.9 7k800.8 " ++
      "b5uo0.9 7x6o0.8 asw00.9 7x6o0.8 asw00.9 7x6o0.8 asw00.9 7x6o0.8 b5uo0.9 7k800.8 b5uo0.9 7k800.8 " ++
      "b5uo0.9 7x6o0.8 asw00.9 7x6o0.8 asw00.9 7x6o0.8 b5uo0.9 7k800.8 b5uo0.9 7k800.8 b5uo0.9 7k800.8 " ++
      "b5uo0.9 7x6o0.8 asw00.9 7x6o0.8 asw00.9;EET-2EEST,M3.5.0/3,M10.5.0/4",
    "Europe/Stockholm=4332,3614,3600,7200d,7200d,3600;-1bhq3cc.1 ayjpvy.2 8jiake.3 75hg0.2 x5bew0.4 " ++
      "902o0.5 9d1c0.4 9d1c0.5 9d1c0.4 9d1c0.5 9d1c0.4 9d1c0.5 9d1c0.4 9q000.5 9d1c0.4 9d1c0.5 9d1c0.4 " ++
      "9d1c0.5 9d1c0.4 9d1c0.5 9d1c0.4 9d1c0.5 9d1c0.4 9d1c0.5 9d1c0.4 9q000.5 9d1c0.4 9d1c0.5 9d1c0.4 " ++
      "9d1c0.5 9d1c0.4 9d1c0.5 9d1c0.4 9d1c0.5 9d1c0.4 9d1c0.5 9q000.4 asw00.5 7x6o0.4 asw00.5 7x6o0.4 " ++
      "asw00.5 7x6o0.4 b5uo0.5 7k800.4 b5uo0.5 7k800.4 b5uo0.5 7x6o0.4 asw00.5 7x6o0.4 asw00.5 7x6o0.4 " ++
      "b5uo0.5 7k800.4 b5uo0.5 7k800.4 b5uo0.5 7k800.4 b5uo0.5 7x6o0.4 asw00.5 7x6o0.4 asw00.5 7x6o0.4 " ++
      "b5uo0.5 7k800.4 b5uo0.5 7k800.4 b5uo0.5 7x6o0.4 asw00.5 7x6o0.4 asw00.5 7x6o0.4 asw00.5 7x6o0.4 " ++
      "b5uo0.5 7k800.4 b5uo0.5 7k800.4 b5uo0.5 7x6o0.4 asw00.5 7x6o0.4 asw00.5 7x6o0.4 b5uo0.5 7k800.4 " ++
      "b5uo0.5 7k800.4 b5uo0.5 7x6o0.4 asw00.5 7x6o0.4 asw00.5 7x6o0.4 asw00.5 7x6o0.4 b5uo0.5 7k800.4 " ++
      "b5uo0.5 7k800.4 b5uo0.5 7x6o0.4 asw00.5 7x6o0.4 asw00.5 7x6o0.4 b5uo0.5 7k800.4 b5uo0.5 7k800.4 " ++
      "b5uo0.5 7k800.4 b5uo0.5 7x6o0.4 asw00.5 7x6o0.4 asw00.5;CET-1CEST,M3.5.0,M10.5.0/3",
    "Europe/Tallinn=5940,5940,7200d,3600,3600,7200,10800,7200d,14400d,10800,14400d,10800d,7200,7200,10800d;-1ayy790.1 " ++
      "jvj9c0.4 3re10.2 7x6o0.3 et6g0.1 ygov0.5 a1zgd0.6 ktx80.7 l94g0.3 7k800.2 9q000.3 9d1c0.2 " ++
      "8uac0.6 j27mk0.8 9et80.6 9d440.8 9et80.6 9d440.8 9et80.6 9eys0.8 9d6w0.9 9d1c0.10 9d1c0.9 " ++
      "9d1c0.10 9d1c0.9 9d1c0.10 9d1c0.9 9d1c0.10 9d1c0.9 9d1c0.11 9d440.12 9d1c0.11 9q000.12 9d1c0.11 " ++
      "9d1c0.12 9d1c0.11 9d1c0.12 9d1c0.11 9d1c0.12 9d1c0.11 9d1c0.12 9d1c0.11 9d1c0.12 9q000.11 " ++
      "asw00.12 7x6o0.11 asw00.12 7x6o0.11 asys0.13 7x6o0.14 b5uo0.5 19dc00.14 asw00.13 7x6o0.14 " ++
      "asw00.13 7x6o0.14 b5uo0.13 7k800.14 b5uo0.13 7k800.14 b5uo0.13 7k800.14 b5uo0.13 7x6o0.14 " ++
      "asw00.13 7x6o0.14 asw00.13 7x6o0.14 b5uo0.13 7k800.14 b5uo0.13 7k800.14 b5uo0.13 7x6o0.14 " ++
      "asw00.13 7x6o0.14 asw00.13 7x6o0.14 asw00.13 7x6o0.14 b5uo0.13 7k800.14 b5uo0.13 7k800.14 " ++
      "b5uo0.13 7x6o0.14 asw00.13 7x6o0.14 asw00.13 7x6o0.14 b5uo0.13 7k800.14 b5uo0.13 7k800.14 " ++
      "b5uo0.13 7x6o0.14 asw00.13 7x6o0.14 asw00.13 7x6o0.14 asw00.13 7x6o0.14 b5uo0.13 7k800.14 " ++
      "b5uo0.13 7k800.14 b5uo0.13 7x6o0.14 asw00.13 7x6o0.14 asw00.13 7x6o0.14 b5uo0.13 7k800.14 " ++
      "b5uo0.13 7k800.14 b5uo0.13 7k800.14 b5uo0.13 7x6o0.14 asw00.13 7x6o0.14 asw00.13;EET-2EEST,M3.5.0/3,M10.5.0/4",
    "Europe/Tirane=4760,3600,7200d,3600,7200d;-t85vo8.1 dt2gw8.2 18pew0.1 7k800.2 m800.1 g7ot40.2 " ++
      "7rjw0.1 autg0.2 7x3w0.1 ayis0.2 7x3w0.1 b5xg0.2 7k580.1 b42s0.2 7lzw0.1 b42s0.2 7lzw0.1 b42s0.2 " ++
      "7x3w0.1 ahus0.2 7x3w0.1 b5xg0.2 7x3w0.1 a4w40.2 8jbw0.1 9eys0.2 9d6w0.3 9d1c0.4 9d1c0.3 9d1c0.4 " ++
      "9d1c0.3 9d1c0.4 9d1c0.3 9d1c0.4 9d1c0.3 9d1c0.4 9d1c0.3 9d1c0.4 9q000.3 9d1c0.4 9d1c0.3 9d1c0.4 " ++
      "9d1c0.3 9d1c0.4 9d1c0.3 9d1c0.4 9d1c0.3 9d1c0.4 9d1c0.3 9q000.4 asw00.3 7x6o0.4 asw00.3 7x6o0.4 " ++
      "asw00.3 7x6o0.4 b5uo0.3 7k800.4 b5uo0.3 7k800.4 b5uo0.3 7x6o0.4 asw00.3 7x6o0.4 asw00.3 7x6o0.4 " ++
      "b5uo0.3 7k800.4 b5uo0.3 7k800.4 b5uo0.3 7k800.4 b5uo0.3 7x6o0.4 asw00.3 7x6o0.4 asw00.3 7x6o0.4 " ++
      "b5uo0.3 7k800.4 b5uo0.3 7k800.4 b5uo0.3 7x6o0.4 asw00.3 7x6o0.4 asw00.3 7x6o0.4 asw00.3 7x6o0.4 " ++
      "b5uo0.3 7k800.4 b5uo0.3 7k800.4 b5uo0.3 7x6o0.4 asw00.3 7x6o0.4 asw00.3 7x6o0.4 b5uo0.3 7k800.4 " ++
      "b5uo0.3 7k800.4 b5uo0.3 7x6o0.4 asw00.3 7x6o0.4 asw00.3 7x6o0.4 asw00.3 7x6o0.4 b5uo0.3 7k800.4 " ++
      "b5uo0.3 7k800.4 b5uo0.3 7x6o0.4 asw00.3 7x6o0.4 asw00.3 7x6o0.4 b5uo0.3 7k800.4 b5uo0.3 7k800.4 " ++
      "b5uo0.3 7k800.4 b5uo0.3 7x6o0.4 asw00.3 7x6o0.4 asw00.3;CET-1CEST,M3.5.0,M10.5.0/3",
    "Europe/Ulyanovsk=11616,10800,18000d,14400,14400,18000d,14400d,10800,10800d,7200,14400d,14400;-qcx400.1 " ++
      "5q5zo0.3 qi27w0.2 9et80.3 9d440.2 9et80.3 9d440.2 9et80.3 9eys0.2 9d6w0.4 9d1c0.5 9d1c0.4 " ++
      "9d1c0.5 9d1c0.4 9d1c0.5 9d1c0.4 9d1c0.5 9d1c0.4 9d1c0.6 9d440.7 9d1c0.6 9q000.7 9d1c0.8 9d440.9 " ++
      "5reo0.7 3ljw0.6 9d1c0.7 9d1c0.6 9d1c0.7 9d1c0.6 9d1c0.7 9d1c0.6 9d1c0.7 9q000.6 asw00.7 7x6o0.6 " ++
      "asw00.7 7x6o0.6 asw00.7 7x6o0.6 b5uo0.7 7k800.6 b5uo0.7 7k800.6 b5uo0.7 7x6o0.6 asw00.7 7x6o0.6 " ++
      "asw00.7 7x6o0.6 b5uo0.7 7k800.6 b5uo0.7 7k800.6 b5uo0.7 7k800.6 b5uo0.7 7x6o0.6 asw00.7 7x6o0.6 " ++
      "asw00.7 7x6o0.6 b5uo0.7 7k800.4 1vbzw0.7 qnc40.4 bdvvrj.4;<+04>-4",
    "Europe/Vaduz=2284,7200d,3600,7200d,3600;-13g44fg.2 ohmxrg.1 7x6o0.2 asw00.1 7x6o0.2 k2zus0.3 " ++
      "9d1c0.4 9d1c0.3 9d1c0.4 9d1c0.3 9d1c0.4 9d1c0.3 9q000.4 9d1c0.3 9d1c0.4 9d1c0.3 9d1c0.4 9d1c0.3 " ++
      "9d1c0.4 9d1c0.3 9d1c0.4 9d1c0.3 9d1c0.4 9d1c0.3 9q000.4 9d1c0.3 9d1c0.4 9d1c0.3 9d1c0.4 9d1c0.3 " ++
      "9d1c0.4 9d1c0.3 9d1c0.4 9d1c0.3 9d1c0.4 9q000.3 asw00.4 7x6o0.3 asw00.4 7x6o0.3 asw00.4 7x6o0.3 " ++
      "b5uo0.4 7k800.3 b5uo0.4 7k800.3 b5uo0.4 7x6o0.3 asw00.4 7x6o0.3 asw00.4 7x6o0.3 b5uo0.4 7k800.3 " ++
      "b5uo0.4 7k800.3 b5uo0.4 7k800.3 b5uo0.4 7x6o0.3 asw00.4 7x6o0.3 asw00.4 7x6o0.3 b5uo0.4 7k800.3 " ++
      "b5uo0.4 7k800.3 b5uo0.4 7x6o0.3 asw00.4 7x6o0.3 asw00.4 7x6o0.3 asw00.4 7x6o0.3 b5uo0.4 7k800.3 " ++
      "b5uo0.4 7k800.3 b5uo0.4 7x6o0.3 asw00.4 7x6o0.3 asw00.4 7x6o0.3 b5uo0.4 7k800.3 b5uo0.4 7k800.3 " ++
      "b5uo0.4 7x6o0.3 asw00.4 7x6o0.3 asw00.4 7x6o0.3 asw00.4 7x6o0.3 b5uo0.4 7k800.3 b5uo0.4 7k800.3 " ++
      "b5uo0.4 7x6o0.3 asw00.4 7x6o0.3 asw00.4 7x6o0.3 b5uo0.4 7k800.3 b5uo0.4 7k800.3 b5uo0.4 7k800.3 " ++
      "b5uo0.4 7x6o0.3 asw00.4 7x6o0.3 asw00.4;CET-1CEST,M3.5.0,M10.5.0/3",
    "Europe/Vienna=3921,7200d,3600,7200d,3600,7200d,3600;-14211ox.2 c1n1gx.1 7ves0.2 a4yw0.3 7x6o0.4 " ++
      "asw00.3 7x6o0.4 t6000.3 8a5c0.4 a7a800.3 1cm000.4 7k800.3 9q000.4 9d1c0.3 9d1c0.4 9d1c0.3 " ++
      "iio0.4 ivmo0.3 91xc0.4 9b6o0.3 9d1c0.4 a2yo0.3 8n400.4 gfyyg0.1 8zzw0.2 9d9o0.5 9d1c0.6 9d1c0.5 " ++
      "9d1c0.6 9d1c0.5 9d1c0.6 9d1c0.5 9q000.6 9d1c0.5 9d1c0.6 9d1c0.5 9d1c0.6 9d1c0.5 9d1c0.6 9d1c0.5 " ++
      "9d1c0.6 9d1c0.5 9d1c0.6 9d1c0.5 9q000.6 9d1c0.5 9d1c0.6 9d1c0.5 9d1c0.6 9d1c0.5 9d1c0.6 9d1c0.5 " ++
      "9d1c0.6 9d1c0.5 9d1c0.6 9q000.5 asw00.6 7x6o0.5 asw00.6 7x6o0.5 asw00.6 7x6o0.5 b5uo0.6 7k800.5 " ++
      "b5uo0.6 7k800.5 b5uo0.6 7x6o0.5 asw00.6 7x6o0.5 asw00.6 7x6o0.5 b5uo0.6 7k800.5 b5uo0.6 7k800.5 " ++
      "b5uo0.6 7k800.5 b5uo0.6 7x6o0.5 asw00.6 7x6o0.5 asw00.6 7x6o0.5 b5uo0.6 7k800.5 b5uo0.6 7k800.5 " ++
      "b5uo0.6 7x6o0.5 asw00.6 7x6o0.5 asw00.6 7x6o0.5 asw00.6 7x6o0.5 b5uo0.6 7k800.5 b5uo0.6 7k800.5 " ++
      "b5uo0.6 7x6o0.5 asw00.6 7x6o0.5 asw00.6 7x6o0.5 b5uo0.6 7k800.5 b5uo0.6 7k800.5 b5uo0.6 7x6o0.5 " ++
      "asw00.6 7x6o0.5 asw00.6 7x6o0.5 asw00.6 7x6o0.5 b5uo0.6 7k800.5 b5uo0.6 7k800.5 b5uo0.6 7x6o0.5 " ++
      "asw00.6 7x6o0.5 asw00.6 7x6o0.5 b5uo0.6 7k800.5 b5uo0.6 7k800.5 b5uo0.6 7k800.5 b5uo0.6 7x6o0.5 " ++
      "asw00.6 7x6o0.5 asw00.6;CET-1CEST,M3.5.0,M10.5.0/3",
    "Europe/Vilnius=6076,5040,5736,3600,7200,10800,3600,7200d,7200d,14400d,10800,14400d,10800d,7200,7200d,3600,7200,10800d;-1" ++
      "ayy7cs.1 jb5y4s.2 1g224o.3 e75nc.4 4kqk0.3 acbs40.5 gpp40.8 pits0.6 7k800.7 9q000.6 9d1c0.7 " ++
      "65zo0.5 j4vx80.9 9et80.5 9d440.9 9et80.5 9d440.9 9et80.5 9eys0.9 9d6w0.10 9d1c0.11 9d1c0.10 " ++
      "9d1c0.11 9d1c0.10 9d1c0.11 9d1c0.10 9d1c0.11 9d1c0.10 9d1c0.12 9d440.13 9d1c0.12 9q000.13 " ++
      "9d1c0.12 9d1c0.13 9d1c0.12 9d1c0.13 9d1c0.12 9d1c0.13 9d1c0.12 9d1c0.13 9d1c0.12 9d1c0.13 " ++
      "9q000.12 asw00.13 7x6o0.12 asw00.13 7x9g0.14 asw00.15 7x6o0.14 b5uo0.16 1s3eo0.17 asw00.16 " ++
      "7x6o0.17 b5uo0.16 7k800.17 b5uo0.16 7k800.17 b5uo0.16 7k800.17 b5uo0.16 7x6o0.17 asw00.16 " ++
      "7x6o0.17 asw00.16 7x6o0.17 b5uo0.16 7k800.17 b5uo0.16 7k800.17 b5uo0.16 7x6o0.17 asw00.16 " ++
      "7x6o0.17 asw00.16 7x6o0.17 asw00.16 7x6o0.17 b5uo0.16 7k800.17 b5uo0.16 7k800.17 b5uo0.16 " ++
      "7x6o0.17 asw00.16 7x6o0.17 asw00.16 7x6o0.17 b5uo0.16 7k800.17 b5uo0.16 7k800.17 b5uo0.16 " ++
      "7x6o0.17 asw00.16 7x6o0.17 asw00.16 7x6o0.17 asw00.16 7x6o0.17 b5uo0.16 7k800.17 b5uo0.16 " ++
      "7k800.17 b5uo0.16 7x6o0.17 asw00.16 7x6o0.17 asw00.16 7x6o0.17 b5uo0.16 7k800.17 b5uo0.16 " ++
      "7k800.17 b5uo0.16 7k800.17 b5uo0.16 7x6o0.17 asw00.16 7x6o0.17 asw00.16;EET-2EEST,M3.5.0/3,M10.5.0/4",
    "Europe/Volgograd=10660,10800,14400,18000d,14400,18000d,14400d,10800,14400,10800;-q3cw84.1 " ++
      "5glrw4.2 qi27w0.3 9et80.2 9d440.3 9et80.2 9d440.3 9et80.2 9eys0.3 9d6w0.4 9d1c0.5 9d1c0.4 " ++
      "9d1c0.5 9d1c0.4 9d1c0.5 9d1c0.4 9d1c0.6 9d440.7 9d1c0.6 9d1c0.7 9d1c0.6 9q000.7 9d1c0.4 ipzw0.6 " ++
      "9d440.7 9d1c0.6 9d1c0.7 9d1c0.6 9d1c0.7 9d1c0.6 9d1c0.7 9q000.6 asw00.7 7x6o0.6 asw00.7 7x6o0.6 " ++
      "asw00.7 7x6o0.6 b5uo0.7 7k800.6 b5uo0.7 7k800.6 b5uo0.7 7x6o0.6 asw00.7 7x6o0.6 asw00.7 7x6o0.6 " ++
      "b5uo0.7 7k800.6 b5uo0.7 7k800.6 b5uo0.7 7k800.6 b5uo0.7 7x6o0.6 asw00.7 7x6o0.6 asw00.7 7x6o0.6 " ++
      "b5uo0.7 7k800.8 1vbzw0.7 239c40.4 14oqk0.7;MSK-3",
    "Europe/Warsaw Poland=5040,5040,7200d,3600,7200d,3600,10800d,7200,7200,7200d,3600;-1ayy6k0.1 " ++
      "iko800.3 dvyc0.2 7ves0.3 a4yw0.4 7x6o0.5 asw00.4 7x6o0.8 aunw0.6 7x6o0.7 1evbs0.3 9fcwc0.2 " ++
      "18cao0.5 7k800.4 9q000.5 9d1c0.4 9gnw0.3 an980.2 9kd80.3 8fs40.4 922w0.5 ar1c0.4 7x6o0.5 a2yo0.4 " ++
      "8n400.5 9q000.4 902o0.5 4013w0.4 64dc0.5 9d1c0.4 9d1c0.5 clpc0.4 6hc00.5 9d1c0.4 9d1c0.5 c8qo0.4 " ++
      "6hc00.5 c8qo0.4 6hc00.5 c8qo0.4 6hc00.5 clpc0.4 64dc0.5 6j4tc0.4 902o0.5 9q000.4 9d1c0.5 9d1c0.4 " ++
      "9d1c0.5 9q000.4 902o0.5 9d1c0.4 9d1c0.5 9d1c0.4 9d1c0.5 9d1c0.4 9d1c0.5 9d1c0.4 9q000.5 9d1c0.4 " ++
      "9d1c0.5 9d1c0.4 9d1c0.5 9d1c0.4 9d1c0.5 9d440.9 9d1c0.10 9d1c0.9 9d1c0.10 9d1c0.9 9q000.10 " ++
      "9d1c0.9 9d1c0.10 9d1c0.9 9d1c0.10 9d1c0.9 9d1c0.10 9d1c0.9 9d1c0.10 9d1c0.9 9d1c0.10 9q000.9 " ++
      "asw00.10 7x6o0.9 asw00.10 7x6o0.9 asw00.10 7x6o0.9 b5uo0.10 7k800.9 b5uo0.10 7k800.9 b5uo0.10 " ++
      "7x6o0.9 asw00.10 7x6o0.9 asw00.10 7x6o0.9 b5uo0.10 7k800.9 b5uo0.10 7k800.9 b5uo0.10 7k800.9 " ++
      "b5uo0.10 7x6o0.9 asw00.10 7x6o0.9 asw00.10 7x6o0.9 b5uo0.10 7k800.9 b5uo0.10 7k800.9 b5uo0.10 " ++
      "7x6o0.9 asw00.10 7x6o0.9 asw00.10 7x6o0.9 asw00.10 7x6o0.9 b5uo0.10 7k800.9 b5uo0.10 7k800.9 " ++
      "b5uo0.10 7x6o0.9 asw00.10 7x6o0.9 asw00.10 7x6o0.9 b5uo0.10 7k800.9 b5uo0.10 7k800.9 b5uo0.10 " ++
      "7x6o0.9 asw00.10 7x6o0.9 asw00.10 7x6o0.9 asw00.10 7x6o0.9 b5uo0.10 7k800.9 b5uo0.10 7k800.9 " ++
      "b5uo0.10 7x6o0.9 asw00.10 7x6o0.9 asw00.10 7x6o0.9 b5uo0.10 7k800.9 b5uo0.10 7k800.9 b5uo0.10 " ++
      "7k800.9 b5uo0.10 7x6o0.9 asw00.10 7x6o0.9 asw00.10;CET-1CEST,M3.5.0,M10.5.0/3",
    "Europe/Zagreb=3832,3600,3600,7200d,7200d,7200d,3600;-18vslmg.1 twhmqg.4 swz00.2 7k800.3 9q000.2 " ++
      "9d1c0.3 9d1c0.2 9d1c0.3 8l9c0.2 jl1hc0.5 9d1c0.6 9d1c0.5 9q000.6 9d1c0.5 9d1c0.6 9d1c0.5 9d1c0.6 " ++
      "9d1c0.5 9d1c0.6 9d1c0.5 9d1c0.6 9d1c0.5 9d1c0.6 9d1c0.5 9q000.6 9d1c0.5 9d1c0.6 9d1c0.5 9d1c0.6 " ++
      "9d1c0.5 9d1c0.6 9d1c0.5 9d1c0.6 9d1c0.5 9d1c0.6 9q000.5 asw00.6 7x6o0.5 asw00.6 7x6o0.5 asw00.6 " ++
      "7x6o0.5 b5uo0.6 7k800.5 b5uo0.6 7k800.5 b5uo0.6 7x6o0.5 asw00.6 7x6o0.5 asw00.6 7x6o0.5 b5uo0.6 " ++
      "7k800.5 b5uo0.6 7k800.5 b5uo0.6 7k800.5 b5uo0.6 7x6o0.5 asw00.6 7x6o0.5 asw00.6 7x6o0.5 b5uo0.6 " ++
      "7k800.5 b5uo0.6 7k800.5 b5uo0.6 7x6o0.5 asw00.6 7x6o0.5 asw00.6 7x6o0.5 asw00.6 7x6o0.5 b5uo0.6 " ++
      "7k800.5 b5uo0.6 7k800.5 b5uo0.6 7x6o0.5 asw00.6 7x6o0.5 asw00.6 7x6o0.5 b5uo0.6 7k800.5 b5uo0.6 " ++
      "7k800.5 b5uo0.6 7x6o0.5 asw00.6 7x6o0.5 asw00.6 7x6o0.5 asw00.6 7x6o0.5 b5uo0.6 7k800.5 b5uo0.6 " ++
      "7k800.5 b5uo0.6 7x6o0.5 asw00.6 7x6o0.5 asw00.6 7x6o0.5 b5uo0.6 7k800.5 b5uo0.6 7k800.5 b5uo0.6 " ++
      "7k800.5 b5uo0.6 7x6o0.5 asw00.6 7x6o0.5 asw00.6;CET-1CEST,M3.5.0,M10.5.0/3"]

end PortableSearch.Zone.Data
