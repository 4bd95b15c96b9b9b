/-! Time-zone rules of Antarctica, the Atlantic, the Arctic, the fixed-offset zones and the zones
named without a region, from release 2025c of the tz database (links as 2025b resolves them). Each
item names the zones that share one rule set, then `=` and the text of their rules. -/

namespace PortableSearch.Zone.Data

/-- Rules of Antarctica, the Atlantic, the Arctic, the fixed-offset zones and the zones named
without a region, one item per rule set. -/
def other : List String := [
    "Antarctica/Casey=0,28800,39600,28800;-irxc0.1 lag4o0.2 73bo0.1 uz1o0.2 60l80.3 2fnh80.2 pz9g0.1 " ++
      "at4c0.2 89u80.1 acgc0.2 80no0.1 asw1o.2 89wyc.1 ag5po.2 89wyc.1 ag5po.2 84lac.1 7rcf7j.1;<+08>-8",
    "Antarctica/Davis=0,25200,18000,25200;-6rmdc0.1 42jdw0.0 27wgs0.1 l8uss0.2 7eqs0.3 unmk0.2 " ++
      "60qs0.3 dismrj.3;<+07>-7",
    "Antarctica/DumontDUrville=0,36000;-c05eo0.1 2mks80.0 2i72g0.1 16dxkzj.1;<+10>-10",
    "Antarctica/Macquarie=0,36000,39600d,36000,0,39600d,36000;-10mb9c0.1 8ts4g0.2 902o0.3 11wns0.4 " ++
      "f4kh40.1 a6p8g0.5 9d1c0.3 asw00.5 6uao0.3 bvs00.5 6uao0.3 bvs00.5 779c0.3 bvs00.5 64dc0.3 " ++
      "clpc0.5 6hc00.3 c8qo0.5 6hc00.3 c8qo0.5 6hc00.3 c8qo0.5 6uao0.3 c8qo0.5 6hc00.3 c8qo0.5 6hc00.3 " ++
      "c8qo0.5 6hc00.3 c8qo0.5 6hc00.3 c8qo0.5 6hc00.3 c8qo0.5 7x6o0.3 b5uo0.5 7k800.3 b5uo0.5 6hc00.3 " ++
      "c8qo0.5 6hc00.3 c8qo0.5 6hc00.3 bvs00.5 7k800.3 bitc0.5 7k800.3 bitc0.5 779c0.3 bitc0.5 779c0.3 " ++
      "bitc0.5 7x6o0.3 9q000.5 902o0.3 9q000.5 902o0.3 9q000.5 902o0.3 9q000.5 902o0.3 9q000.5 9d1c0.3 " ++
      "9q000.5 902o0.3 9q000.5 902o0.3 9q000.5 902o0.3 9q000.5 902o0.3 7x6o0.5 asw00.3 a2yo0.5 902o0.3 " ++
      "9q000.5 902o0.3 9q000.5 902o0.3 9q000.5 902o0.3 9q000.5 9d1c0.3 9d1c0.5 902o0.3 a2yo0.5 9d1c0.3 " ++
      "9d1c0.5 9d1c0.3 9d1c0.5 s3400.3 9d1c0.5 9d1c0.3 9q000.5 9d1c0.3 9d1c0.5 9d1c0.3 9d1c0.5 9d1c0.3 " ++
      "9d1c0.5 9d1c0.3 9d1c0.5 9d1c0.3 9d1c0.5 9d1c0.3 9q000.5 9d1c0.3 9d1c0.5 9d1c0.3 9d1c0.5 9d1c0.3 " ++
      "9d1c0.5 9d1c0.3 9d1c0.5 9d1c0.3 9d1c0.5 9q000.3 9d1c0.5 9d1c0.3 9d1c0.5 9d1c0.3 9d1c0.5 9d1c0.3 " ++
      "9d1c0.5 9d1c0.3 9d1c0.5 9d1c0.3 9q000.5 9d1c0.3 9d1c0.5 9d1c0.3 9d1c0.5 9d1c0.3 9d1c0.5 9d1c0.3 " ++
      "9d1c0.5 9d1c0.3 9d1c0.5 9d1c0.3 9q000.5 9d1c0.3 9d1c0.5 9d1c0.3 9d1c0.5;AEST-10AEDT,M10.1.0,M4.1.0/3",
    "Antarctica/Mawson=0,21600,18000;-8aelc0.1 t22y80.2 eqvo3j.2;<+05>-5",
    "Antarctica/McMurdo=0,46800d,43200,43200;-7b2dc0.3 9txtk0.1 5reo0.2 clpc0.1 6uao0.2 c8qo0.1 " ++
      "6hc00.2 c8qo0.1 6hc00.2 c8qo0.1 6hc00.2 c8qo0.1 6hc00.2 c8qo0.1 6hc00.2 c8qo0.1 6uao0.2 c8qo0.1 " ++
      "6hc00.2 c8qo0.1 6hc00.2 c8qo0.1 6hc00.2 c8qo0.1 6hc00.2 c8qo0.1 6hc00.2 c8qo0.1 6uao0.2 c8qo0.1 " ++
      "6hc00.2 b5uo0.1 8a5c0.2 afxc0.1 8a5c0.2 afxc0.1 8a5c0.2 afxc0.1 8n400.2 a2yo0.1 8n400.2 a2yo0.1 " ++
      "8n400.2 a2yo0.1 8n400.2 afxc0.1 8a5c0.2 afxc0.1 8a5c0.2 afxc0.1 8n400.2 a2yo0.1 8n400.2 a2yo0.1 " ++
      "8n400.2 afxc0.1 8a5c0.2 afxc0.1 8a5c0.2 afxc0.1 8n400.2 a2yo0.1 8n400.2 a2yo0.1 8n400.2 a2yo0.1 " ++
      "8n400.2 a2yo0.1 9q000.2 902o0.1 9q000.2 902o0.1 9q000.2 902o0.1 9q000.2 902o0.1 9q000.2 9d1c0.1 " ++
      "9q000.2 902o0.1 9q000.2 902o0.1 9q000.2 902o0.1 9q000.2 902o0.1 9q000.2 902o0.1 9q000.2 9d1c0.1 " ++
      "9q000.2 902o0.1 9q000.2 902o0.1 9q000.2 902o0.1 9q000.2 902o0.1 9q000.2 902o0.1 a2yo0.2 902o0.1 " ++
      "9q000.2 902o0.1 9q000.2 902o0.1 9q000.2 902o0.1 9q000.2 902o0.1 9q000.2 9d1c0.1 9q000.2 902o0.1 " ++
      "9q000.2 902o0.1 9q000.2 902o0.1 9q000.2 902o0.1 9q000.2 902o0.1 9q000.2 9d1c0.1 9q000.2 902o0.1 " ++
      "9q000.2 902o0.1;NZST-12NZDT,M9.5.0,M4.1.0/3",
    "Antarctica/Palmer=0,-14400,-10800d,-7200d,-10800,-10800d,-14400,-10800;-2lxhc0.2 31ho0.1 bqas0.2 " ++
      "71mk0.1 bqas0.2 8ovw0.1 9d440.2 9px80.1 9d440.2 9cyk0.1 9d440.4 28t6k0.3 51ek0.4 46b6s0.1 " ++
      "8c2s0.5 7x3w0.6 asys0.5 7x3w0.6 b5xg0.5 7k580.6 b5xg0.5 7k580.6 b5xg0.5 9cyk0.6 9d440.5 7x3w0.6 " ++
      "asys0.5 7x3w0.6 b5xg0.5 7k580.6 9q2s0.5 8zzw0.6 b5xg0.5 7x3w0.6 asys0.5 7x3w0.6 asys0.5 7x3w0.6 " ++
      "asys0.5 7x3w0.6 b5xg0.5 7k580.6 b5xg0.5 8n180.6 a31g0.5 7x3w0.6 a31g0.5 9px80.6 9q2s0.5 7x3w0.6 " ++
      "b5xg0.5 7k580.6 b5xg0.5 7k580.6 b5xg0.5 7k580.6 b5xg0.5 7x3w0.6 asys0.5 7x3w0.6 asys0.5 7x3w0.6 " ++
      "b5xg0.5 7k580.6 b5xg0.5 8n180.6 a31g0.5 7x3w0.6 asys0.5 8zzw0.6 9q2s0.5 ast80.6 5eis0.5 cyl80.6 " ++
      "6hes0.5 c8nw0.6 6udg0.5 bvp80.6 6udg0.5 vonw0.6 4olg0.5 5rbw0.4 b0wwnj.4;<-03>3",
    "Antarctica/Rothera=0,-10800;3lxs00.1 vwm8zj.1;<-03>3",
    "Antarctica/South_Pole NZ Pacific/Auckland=41944,45000d,41400,43200d,46800d,43200,43200;-1gsoz14.2 " ++
      "usn9z4.1 64ak0.2 biw40.3 7x5a0.2 asxe0.3 7x5a0.2 asxe0.3 7x5a0.2 asxe0.3 8a3y0.2 afyq0.3 8a3y0.2 " ++
      "afyq0.3 afvy0.2 7x820.3 asum0.2 7x820.3 asum0.2 7x820.3 asum0.2 7x820.3 asum0.2 7x820.3 b5ta0.2 " ++
      "7k9e0.3 b5ta0.2 7x820.3 2qrd20.6 f1tpk0.4 5reo0.5 clpc0.4 6uao0.5 c8qo0.4 6hc00.5 c8qo0.4 " ++
      "6hc00.5 c8qo0.4 6hc00.5 c8qo0.4 6hc00.5 c8qo0.4 6hc00.5 c8qo0.4 6uao0.5 c8qo0.4 6hc00.5 c8qo0.4 " ++
      "6hc00.5 c8qo0.4 6hc00.5 c8qo0.4 6hc00.5 c8qo0.4 6hc00.5 c8qo0.4 6uao0.5 c8qo0.4 6hc00.5 b5uo0.4 " ++
      "8a5c0.5 afxc0.4 8a5c0.5 afxc0.4 8a5c0.5 afxc0.4 8n400.5 a2yo0.4 8n400.5 a2yo0.4 8n400.5 a2yo0.4 " ++
      "8n400.5 afxc0.4 8a5c0.5 afxc0.4 8a5c0.5 afxc0.4 8n400.5 a2yo0.4 8n400.5 a2yo0.4 8n400.5 afxc0.4 " ++
      "8a5c0.5 afxc0.4 8a5c0.5 afxc0.4 8n400.5 a2yo0.4 8n400.5 a2yo0.4 8n400.5 a2yo0.4 8n400.5 a2yo0.4 " ++
      "9q000.5 902o0.4 9q000.5 902o0.4 9q000.5 902o0.4 9q000.5 902o0.4 9q000.5 9d1c0.4 9q000.5 902o0.4 " ++
      "9q000.5 902o0.4 9q000.5 902o0.4 9q000.5 902o0.4 9q000.5 902o0.4 9q000.5 9d1c0.4 9q000.5 902o0.4 " ++
      "9q000.5 902o0.4 9q000.5 902o0.4 9q000.5 902o0.4 9q000.5 902o0.4 a2yo0.5 902o0.4 9q000.5 902o0.4 " ++
      "9q000.5 902o0.4 9q000.5 902o0.4 9q000.5 902o0.4 9q000.5 9d1c0.4 9q000.5 902o0.4 9q000.5 902o0.4 " ++
      "9q000.5 902o0.4 9q000.5 902o0.4 9q000.5 902o0.4 9q000.5 9d1c0.4 9q000.5 902o0.4 9q000.5 902o0.4;NZST-12NZDT,M9.5.0,M4.1." ++
      "0/3",
    "Antarctica/Syowa=0,10800;-6qsqo0.1 169crnj.1;<+03>-3",
    "Antarctica/Troll=0,7200d,0,0;ibruo0.3 27pg0.1 b5uo0.2 7k800.1 b5uo0.2 7k800.1 b5uo0.2 7x6o0.1 " ++
      "asw00.2 7x6o0.1 asw00.2 7x6o0.1 b5uo0.2 7k800.1 b5uo0.2 7k800.1 b5uo0.2 7x6o0.1 asw00.2 7x6o0.1 " ++
      "asw00.2 7x6o0.1 asw00.2 7x6o0.1 b5uo0.2 7k800.1 b5uo0.2 7k800.1 b5uo0.2 7x6o0.1 asw00.2 7x6o0.1 " ++
      "asw00.2 7x6o0.1 b5uo0.2 7k800.1 b5uo0.2 7k800.1 b5uo0.2 7x6o0.1 asw00.2 7x6o0.1 asw00.2 7x6o0.1 " ++
      "asw00.2 7x6o0.1 b5uo0.2 7k800.1 b5uo0.2 7k800.1 b5uo0.2 7x6o0.1 asw00.2 7x6o0.1 asw00.2 7x6o0.1 " ++
      "b5uo0.2 7k800.1 b5uo0.2 7k800.1 b5uo0.2 7k800.1 b5uo0.2 7x6o0.1 asw00.2 7x6o0.1 asw00.2 4ffjj.2;<+00>0<+02>-2,M3.5.0/1,M" ++
      "10.5.0/3",
    "Antarctica/Vostok=0,25200,18000;-6aaao0.1 iushw0.0 e23g0.1 f79gs0.2 7cq9jj.2;<+05>-5",
    "Arctic/Longyearbyen Atlantic/Jan_Mayen Europe/Berlin=3208,7200d,3600,7200d,3600,10800d,10800d,7200d,3600;-1421154.2 " ++
      "c1n0x4.1 7ves0.2 a4yw0.3 7x6o0.4 asw00.3 7x6o0.4 b8qdc0.3 1cm000.4 7k800.3 9q000.4 9d1c0.3 " ++
      "9d1c0.4 9d1c0.3 2o7w0.5 6bs00.1 2txg0.4 7k800.3 91xc0.4 9b9g0.3 1sqk0.6 2inw0.1 51k40.4 a2yo0.3 " ++
      "8n400.4 9q000.3 902o0.4 fx91c0.7 902o0.8 9d1c0.7 9d1c0.8 9d1c0.7 9d1c0.8 9d1c0.7 9d1c0.8 9d1c0.7 " ++
      "9q000.8 9d1c0.7 9d1c0.8 9d1c0.7 9d1c0.8 9d1c0.7 9d1c0.8 9d1c0.7 9d1c0.8 9d1c0.7 9d1c0.8 9d1c0.7 " ++
      "9q000.8 9d1c0.7 9d1c0.8 9d1c0.7 9d1c0.8 9d1c0.7 9d1c0.8 9d1c0.7 9d1c0.8 9d1c0.7 9d1c0.8 9q000.7 " ++
      "asw00.8 7x6o0.7 asw00.8 7x6o0.7 asw00.8 7x6o0.7 b5uo0.8 7k800.7 b5uo0.8 7k800.7 b5uo0.8 7x6o0.7 " ++
      "asw00.8 7x6o0.7 asw00.8 7x6o0.7 b5uo0.8 7k800.7 b5uo0.8 7k800.7 b5uo0.8 7k800.7 b5uo0.8 7x6o0.7 " ++
      "asw00.8 7x6o0.7 asw00.8 7x6o0.7 b5uo0.8 7k800.7 b5uo0.8 7k800.7 b5uo0.8 7x6o0.7 asw00.8 7x6o0.7 " ++
      "asw00.8 7x6o0.7 asw00.8 7x6o0.7 b5uo0.8 7k800.7 b5uo0.8 7k800.7 b5uo0.8 7x6o0.7 asw00.8 7x6o0.7 " ++
      "asw00.8 7x6o0.7 b5uo0.8 7k800.7 b5uo0.8 7k800.7 b5uo0.8 7x6o0.7 asw00.8 7x6o0.7 asw00.8 7x6o0.7 " ++
      "asw00.8 7x6o0.7 b5uo0.8 7k800.7 b5uo0.8 7k800.7 b5uo0.8 7x6o0.7 asw00.8 7x6o0.7 asw00.8 7x6o0.7 " ++
      "b5uo0.8 7k800.7 b5uo0.8 7k800.7 b5uo0.8 7k800.7 b5uo0.8 7x6o0.7 asw00.8 7x6o0.7 asw00.8;CET-1CEST,M3.5.0,M10.5.0/3",
    "Atlantic/Azores=-6160,-6872,-3600d,-7200,-3600d,-7200,-7200,0d,-3600,0d,-3600,3600d,0,0d,-3600;-18vsdww.1 " ++
      "em124w.6 2bufw0.2 6zxg0.3 66800.2 bq580.3 71s40.2 bq580.3 71s40.2 bq580.3 73ms0.2 bq580.3 " ++
      "71s40.2 bq580.3 1b2g00.4 8so00.5 st1c0.4 8n400.5 9q000.4 902o0.5 a2yo0.4 902o0.5 a2yo0.4 8n400.5 " ++
      "st1c0.4 8n400.5 9d1c0.4 9d1c0.5 sg2o0.4 9d1c0.5 902o0.4 9q000.5 a2yo0.4 8n400.5 9d1c0.4 9d1c0.5 " ++
      "902o0.4 9q000.5 a2yo0.4 b5uo0.5 51hc0.4 bmio0.5 99c00.4 9ew00.5 88ao0.4 25p80.7 5reo0.4 3lpg0.5 " ++
      "779c0.4 1sqk0.7 6uao0.4 38qs0.5 6uao0.4 25p80.7 6hc00.4 38qs0.5 6uao0.4 25p80.7 6hc00.4 38qs0.5 " ++
      "8a5c0.4 9d1c0.5 9d9o0.4 9d1c0.5 9d1c0.4 9d1c0.5 9d1c0.4 9d1c0.5 9d1c0.4 9d1c0.5 9d1c0.4 9q000.5 " ++
      "9d1c0.4 9d1c0.5 9d1c0.4 9d1c0.5 9d1c0.4 9d1c0.5 9d1c0.4 9d1c0.5 9d1c0.4 9q000.5 9d1c0.4 9d1c0.5 " ++
      "9d1c0.4 9d1c0.5 9d1c0.4 9d1c0.5 9d1c0.4 9d1c0.5 9d1c0.4 9d1c0.5 9d1c0.4 9q000.5 9d1c0.4 9d1c0.5 " ++
      "9d1c0.4 9d1c0.5 9d1c0.4 9d1c0.5 9d1c0.4 9d1c0.8 82xuc0.7 9d1c0.8 9d1c0.7 9d1c0.8 9d1c0.7 9q000.8 " ++
      "9d1c0.7 9d1c0.8 9d1c0.9 9d1c0.10 9d1c0.9 9d1c0.10 9d1c0.9 9d1c0.10 9d1c0.9 9d1c0.10 9d1c0.9 " ++
      "9q000.10 9d1c0.9 9d1c0.10 9d1c0.9 9d1c0.10 4olg0.12 4ofw0.11 46000.9 571c0.10 9d1c0.9 9d1c0.10 " ++
      "9d1c0.9 9d1c0.10 9q000.9 asw00.10 7x6o0.9 asw00.10 7x6o0.9 asw00.10 7x6o0.9 b5uo0.10 7k800.9 " ++
      "b5uo0.10 7k800.9 b5uo0.10 7x6o0.9 asw00.10 7x6o0.9 asw00.10 7x6o0.9 b5uo0.10 7k800.9 b5uo0.10 " ++
      "7k800.9 b5uo0.10 7k800.9 b5uo0.10 7x6o0.9 asw00.10 7x6o0.9 asw00.10 7x6o0.9 b5uo0.10 7k800.9 " ++
      "b5uo0.10 7k800.9 b5uo0.10 7x6o0.9 asw00.10 7x6o0.9 asw00.10 7x6o0.9 asw00.10 7x6o0.9 b5uo0.10 " ++
      "7k800.9 b5uo0.10 7k800.9 b5uo0.10 7x6o0.9 asw00.10 7x6o0.9 asw00.10 7x6o0.9 b5uo0.10 7k800.9 " ++
      "b5uo0.10 7k800.9 b5uo0.10 7x6o0.9 asw00.10 7x6o0.9 asw00.10 7x6o0.9 asw00.10 7x6o0.9 b5uo0.10 " ++
      "7k800.9 b5uo0.10 7k800.9 b5uo0.10 7x6o0.9 asw00.10 7x6o0.9 asw00.10 7x6o0.9 b5uo0.10 7k800.9 " ++
      "b5uo0.10 7k800.9 b5uo0.10 7k800.9 b5uo0.10 7x6o0.9 asw00.10 7x6o0.9 asw00.10 4ffjj.10;<-01>1<+00>,M3.5.0/0,M10.5.0/1",
    "Atlantic/Bermuda=-15558,-11958d,-15558,-10800d,-14400;-15r0xbu.2 e851c0.1 95jw0.2 a16s0.1 " ++
      "7yyk0.2 5w74c0.4 69z5ru.3 eefw0.4 7x9g0.3 biqk0.4 6udg0.3 c8nw0.4 6hes0.3 c8nw0.4 st440.3 " ++
      "64ak0.4 cyqs0.3 5ed80.4 dbpg0.3 5ed80.4 doo40.3 51ek0.4 doo40.3 51ek0.4 doo40.3 5ed80.4 1xuw40.3 " ++
      "7x3w0.4 94r9g0.3 9cyk0.4 9d440.3 9cyk0.4 9d440.3 9px80.4 905g0.3 9px80.4 9d440.3 9cyk0.4 9d440.3 " ++
      "9cyk0.4 9d440.3 9cyk0.4 9d440.3 9cyk0.4 9d440.3 9px80.4 905g0.3 9px80.4 9d440.3 9cyk0.4 9d440.3 " ++
      "9cyk0.4 9d440.3 9cyk0.4 8a840.3 afuk0.4 8a840.3 ast80.4 7x9g0.3 ast80.4 7x9g0.3 ast80.4 8a840.3 " ++
      "afuk0.4 8a840.3 afuk0.4 8a840.3 ast80.4 7x9g0.3 ast80.4 7x9g0.3 ast80.4 8a840.3 afuk0.4 8a840.3 " ++
      "afuk0.4 8a840.3 afuk0.4 8a840.3 ast80.4 7x9g0.3 ast80.4 7x9g0.3 ast80.4 8a840.3 afuk0.4 8a840.3 " ++
      "afuk0.4 8a840.3 ast80.4 7x9g0.3 ast80.4 7x9g0.3 ast80.4 6udg0.3 c8nw0.4 6hes0.3 c8nw0.4 6hes0.3 " ++
      "c8nw0.4 6udg0.3 c8nw0.4 6hes0.3 c8nw0.4 6hes0.3 c8nw0.4 6hes0.3 c8nw0.4 6hes0.3 c8nw0.4 6hes0.3 " ++
      "c8nw0.4 6udg0.3 c8nw0.4 6hes0.3 c8nw0.4 6hes0.3 c8nw0.4 6hes0.3 c8nw0.4 6hes0.3 c8nw0.4 6udg0.3 " ++
      "c8nw0.4 6hes0.3 c8nw0.4 6hes0.3 c8nw0.4 6hes0.3 c8nw0.4 6hes0.3 c8nw0.4 6hes0.3 c8nw0.4 6udg0.3 " ++
      "c8nw0.4 6hes0.3 c8nw0.4 6hes0.3 c8nw0.4 6hes0.3 c8nw0.4 6hes0.3 c8nw0.4 6udg0.3 c8nw0.4 6hes0.3 " ++
      "c8nw0.4 6hes0.3 c8nw0.4 6hes0.3 c8nw0.4 6hes0.3 c8nw0.4 6hes0.3 c8nw0.4;AST4ADT,M3.2.0,M11.1.0",
    "Atlantic/Canary=-3696,-3600,0,3600d,0,3600d;-oytbtc.1 ctvupc.2 hhq7s0.3 905g0.4 9d1c0.5 9d1c0.4 " ++
      "9d1c0.5 9d1c0.4 9d1c0.5 9d1c0.4 9d1c0.5 9q000.4 9d1c0.5 9d1c0.4 9d1c0.5 9d1c0.4 9d1c0.5 9d1c0.4 " ++
      "9d1c0.5 9d1c0.4 9d1c0.5 9d1c0.4 9d1c0.5 9q000.4 9d1c0.5 9d1c0.4 9d1c0.5 9d1c0.4 9d1c0.5 9d1c0.4 " ++
      "9d1c0.5 9d1c0.4 9d1c0.5 9d1c0.4 9q000.5 asw00.4 7x6o0.5 asw00.4 7x6o0.5 asw00.4 7x6o0.5 b5uo0.4 " ++
      "7k800.5 b5uo0.4 7k800.5 b5uo0.4 7x6o0.5 asw00.4 7x6o0.5 asw00.4 7x6o0.5 b5uo0.4 7k800.5 b5uo0.4 " ++
      "7k800.5 b5uo0.4 7k800.5 b5uo0.4 7x6o0.5 asw00.4 7x6o0.5 asw00.4 7x6o0.5 b5uo0.4 7k800.5 b5uo0.4 " ++
      "7k800.5 b5uo0.4 7x6o0.5 asw00.4 7x6o0.5 asw00.4 7x6o0.5 asw00.4 7x6o0.5 b5uo0.4 7k800.5 b5uo0.4 " ++
      "7k800.5 b5uo0.4 7x6o0.5 asw00.4 7x6o0.5 asw00.4 7x6o0.5 b5uo0.4 7k800.5 b5uo0.4 7k800.5 b5uo0.4 " ++
      "7x6o0.5 asw00.4 7x6o0.5 asw00.4 7x6o0.5 asw00.4 7x6o0.5 b5uo0.4 7k800.5 b5uo0.4 7k800.5 b5uo0.4 " ++
      "7x6o0.5 asw00.4 7x6o0.5 asw00.4 7x6o0.5 b5uo0.4 7k800.5 b5uo0.4 7k800.5 b5uo0.4 7k800.5 b5uo0.4 " ++
      "7x6o0.5 asw00.4 7x6o0.5 asw00.4;WET0WEST,M3.5.0/1,M10.5.0",
    "Atlantic/Cape_Verde=-5644,-7200,-3600d,-7200,-3600;-u9rbs0.1 g06lc0.2 1mn180.3 fpqwc0.4 wfqtvj.4;<-01>1",
    "Atlantic/Faeroe Atlantic/Faroe=-1624,0,3600d,0;-wcehew.1 127keuw.2 9d1c0.3 9d1c0.2 9d1c0.3 " ++
      "9d1c0.2 9d1c0.3 9d1c0.2 9q000.3 9d1c0.2 9d1c0.3 9d1c0.2 9d1c0.3 9d1c0.2 9d1c0.3 9d1c0.2 9d1c0.3 " ++
      "9d1c0.2 9d1c0.3 9d1c0.2 9q000.3 9d1c0.2 9d1c0.3 9d1c0.2 9d1c0.3 9d1c0.2 9d1c0.3 9d1c0.2 9d1c0.3 " ++
      "9d1c0.2 9d1c0.3 9q000.2 asw00.3 7x6o0.2 asw00.3 7x6o0.2 asw00.3 7x6o0.2 b5uo0.3 7k800.2 b5uo0.3 " ++
      "7k800.2 b5uo0.3 7x6o0.2 asw00.3 7x6o0.2 asw00.3 7x6o0.2 b5uo0.3 7k800.2 b5uo0.3 7k800.2 b5uo0.3 " ++
      "7k800.2 b5uo0.3 7x6o0.2 asw00.3 7x6o0.2 asw00.3 7x6o0.2 b5uo0.3 7k800.2 b5uo0.3 7k800.2 b5uo0.3 " ++
      "7x6o0.2 asw00.3 7x6o0.2 asw00.3 7x6o0.2 asw00.3 7x6o0.2 b5uo0.3 7k800.2 b5uo0.3 7k800.2 b5uo0.3 " ++
      "7x6o0.2 asw00.3 7x6o0.2 asw00.3 7x6o0.2 b5uo0.3 7k800.2 b5uo0.3 7k800.2 b5uo0.3 7x6o0.2 asw00.3 " ++
      "7x6o0.2 asw00.3 7x6o0.2 asw00.3 7x6o0.2 b5uo0.3 7k800.2 b5uo0.3 7k800.2 b5uo0.3 7x6o0.2 asw00.3 " ++
      "7x6o0.2 asw00.3 7x6o0.2 b5uo0.3 7k800.2 b5uo0.3 7k800.2 b5uo0.3 7k800.2 b5uo0.3 7x6o0.2 asw00.3 " ++
      "7x6o0.2 asw00.3;WET0WEST,M3.5.0/1,M10.5.0",
    "Atlantic/Madeira=-4056,-4056,0d,-3600,0d,-3600,-3600,3600d,0,3600d,3600d,0,3600d;-18vsfjc.1 " ++
      "em10zc.6 2bufw0.2 6zxg0.3 66800.2 bq580.3 71s40.2 bq580.3 71s40.2 bq580.3 73ms0.2 bq580.3 " ++
      "71s40.2 bq580.3 1b2g00.4 8so00.5 st1c0.4 8n400.5 9q000.4 902o0.5 a2yo0.4 902o0.5 a2yo0.4 8n400.5 " ++
      "st1c0.4 8n400.5 9d1c0.4 9d1c0.5 sg2o0.4 9d1c0.5 902o0.4 9q000.5 a2yo0.4 8n400.5 9d1c0.4 9d1c0.5 " ++
      "902o0.4 9q000.5 a2yo0.4 b5uo0.5 51hc0.4 bmio0.5 99c00.4 9ew00.5 88ao0.4 25p80.7 5reo0.4 3lpg0.5 " ++
      "779c0.4 1sqk0.7 6uao0.4 38qs0.5 6uao0.4 25p80.7 6hc00.4 38qs0.5 6uao0.4 25p80.7 6hc00.4 38qs0.5 " ++
      "8a5c0.4 9d1c0.5 9d9o0.4 9d1c0.5 9d1c0.4 9d1c0.5 9d1c0.4 9d1c0.5 9d1c0.4 9d1c0.5 9d1c0.4 9q000.5 " ++
      "9d1c0.4 9d1c0.5 9d1c0.4 9d1c0.5 9d1c0.4 9d1c0.5 9d1c0.4 9d1c0.5 9d1c0.4 9q000.5 9d1c0.4 9d1c0.5 " ++
      "9d1c0.4 9d1c0.5 9d1c0.4 9d1c0.5 9d1c0.4 9d1c0.5 9d1c0.4 9d1c0.5 9d1c0.4 9q000.5 9d1c0.4 9d1c0.5 " ++
      "9d1c0.4 9d1c0.5 9d1c0.4 9d1c0.5 9d1c0.4 9d1c0.8 83at00.10 902o0.8 9d1c0.9 9d1c0.8 9d1c0.9 " ++
      "9q000.8 9d1c0.9 9d1c0.8 9d1c0.9 9d440.11 9d1c0.12 9d1c0.11 9d1c0.12 9d1c0.11 9d1c0.12 9d1c0.11 " ++
      "9d1c0.12 9q000.11 9d1c0.12 9d1c0.11 9d1c0.12 9d1c0.11 9d1c0.12 9d1c0.11 9d1c0.12 9d1c0.11 " ++
      "9d1c0.12 9d1c0.11 9q000.12 asw00.11 7x6o0.12 asw00.11 7x6o0.12 asw00.11 7x6o0.12 b5uo0.11 " ++
      "7k800.12 b5uo0.11 7k800.12 b5uo0.11 7x6o0.12 asw00.11 7x6o0.12 asw00.11 7x6o0.12 b5uo0.11 " ++
      "7k800.12 b5uo0.11 7k800.12 b5uo0.11 7k800.12 b5uo0.11 7x6o0.12 asw00.11 7x6o0.12 asw00.11 " ++
      "7x6o0.12 b5uo0.11 7k800.12 b5uo0.11 7k800.12 b5uo0.11 7x6o0.12 asw00.11 7x6o0.12 asw00.11 " ++
      "7x6o0.12 asw00.11 7x6o0.12 b5uo0.11 7k800.12 b5uo0.11 7k800.12 b5uo0.11 7x6o0.12 asw00.11 " ++
      "7x6o0.12 asw00.11 7x6o0.12 b5uo0.11 7k800.12 b5uo0.11 7k800.12 b5uo0.11 7x6o0.12 asw00.11 " ++
      "7x6o0.12 asw00.11 7x6o0.12 asw00.11 7x6o0.12 b5uo0.11 7k800.12 b5uo0.11 7k800.12 b5uo0.11 " ++
      "7x6o0.12 asw00.11 7x6o0.12 asw00.11 7x6o0.12 b5uo0.11 7k800.12 b5uo0.11 7k800.12 b5uo0.11 " ++
      "7k800.12 b5uo0.11 7x6o0.12 asw00.11 7x6o0.12 asw00.11;WET0WEST,M3.5.0/1,M10.5.0",
    "Atlantic/Reykjavik=-5280,0d,-3600,-3600,0d,0;-wcwx9c.2 4rpd9c.1 ci2s0.2 69uk0.1 du840.2 4xp80.1 " ++
      "du840.2 p7bw0.1 4w040.2 9bdzw0.1 9d6w0.2 64g40.1 cyl80.3 64dc0.4 clpc0.3 6hc00.4 bvs00.3 6uao0.4 " ++
      "bvs00.3 6uao0.4 bvs00.3 6uao0.4 c8qo0.3 6hc00.4 c8qo0.3 8a5c0.4 afxc0.3 8a5c0.4 afxc0.3 8a5c0.4 " ++
      "asw00.3 7x6o0.4 afxc0.3 8a5c0.4 asw00.3 8a5c0.4 afxc0.3 8a5c0.4 afxc0.3 8a5c0.4 afxc0.3 8a5c0.4 " ++
      "afxc0.3 8a5c0.4 asw00.3 8a5c0.4 afxc0.3 8a5c0.4 afxc0.3 8a5c0.4 afxc0.3 8a5c0.4 afxc0.3 8a5c0.4 " ++
      "afxc0.3 8a5c0.4 asw00.3 8a5c0.4 afxc0.3 8a5c0.4 afxc0.3 8a5c0.4 afxc0.3 8a5c0.4 afxc0.3 8a5c0.4 " ++
      "asw00.3 8a5c0.5;GMT0",
    "Atlantic/South_Georgia=-8768,-7200;-15r12kg.1 259l3jz.1;<-02>2",
    "Atlantic/St_Helena=-1368,-1368,0;-15r18a0.1 vu1eo0.2;GMT0",
    "Atlantic/Stanley=-13884,-13884,-10800d,-14400,-7200d,-10800,-10800d;-15r0ymc.1 bkx9c0.3 dbvxqc.2 " ++
      "8zzw0.3 9q2s0.2 8zzw0.3 a31g0.2 8zzw0.3 9q2s0.2 8zzw0.3 9q2s0.2 8zzw0.3 9q2s0.2 4xp80.3 l1pus0.5 " ++
      "7k580.4 b5rw0.5 77c40.4 biqk0.5 77c40.2 b5uo0.3 7kas0.2 b5rw0.3 7kas0.2 b5rw0.3 7kas0.2 b5rw0.3 " ++
      "7kas0.2 biqk0.3 77c40.2 biqk0.3 7kas0.2 b5rw0.3 7kas0.2 b5rw0.3 7kas0.2 b5rw0.3 7kas0.2 b5rw0.3 " ++
      "7kas0.2 biqk0.3 7kas0.2 b5rw0.3 7kas0.2 b5rw0.3 7kas0.2 b5rw0.3 7kas0.2 b5rw0.3 7kas0.2 b5xg0.3 " ++
      "77c40.2 bvp80.3 6udg0.2 bvp80.3 77c40.2 biqk0.3 77c40.2 biqk0.3 77c40.2 biqk0.3 77c40.2 biqk0.3 " ++
      "77c40.2 bvp80.3 77c40.2 biqk0.3 77c40.2 biqk0.3 77c40.5 eaalnj.5;<-03>3",
    "CET=3600,7200d,7200d,3600;-s0e080.1 7ves0.0 a4yw0.2 7x6o0.3 asw00.2 7x6o0.3 b8qdc0.2 1cm000.3 " ++
      "7k800.2 9q000.3 9d1c0.2 9d1c0.3 9d1c0.2 8l9c0.3 ggp1c0.2 902o0.3 9q000.2 9d1c0.3 9d1c0.2 9d1c0.3 " ++
      "9q000.2 902o0.3 9d1c0.2 9d1c0.3 9d1c0.2 9d1c0.3 9d1c0.2 9d1c0.3 9d1c0.2 9q000.3 9d1c0.2 9d1c0.3 " ++
      "9d1c0.2 9d1c0.3 9d1c0.2 9d1c0.3 9d1c0.2 9d1c0.3 9d1c0.2 9d1c0.3 9d1c0.2 9q000.3 9d1c0.2 9d1c0.3 " ++
      "9d1c0.2 9d1c0.3 9d1c0.2 9d1c0.3 9d1c0.2 9d1c0.3 9d1c0.2 9d1c0.3 9q000.2 asw00.3 7x6o0.2 asw00.3 " ++
      "7x6o0.2 asw00.3 7x6o0.2 b5uo0.3 7k800.2 b5uo0.3 7k800.2 b5uo0.3 7x6o0.2 asw00.3 7x6o0.2 asw00.3 " ++
      "7x6o0.2 b5uo0.3 7k800.2 b5uo0.3 7k800.2 b5uo0.3 7k800.2 b5uo0.3 7x6o0.2 asw00.3 7x6o0.2 asw00.3 " ++
      "7x6o0.2 b5uo0.3 7k800.2 b5uo0.3 7k800.2 b5uo0.3 7x6o0.2 asw00.3 7x6o0.2 asw00.3 7x6o0.2 asw00.3 " ++
      "7x6o0.2 b5uo0.3 7k800.2 b5uo0.3 7k800.2 b5uo0.3 7x6o0.2 asw00.3 7x6o0.2 asw00.3 7x6o0.2 b5uo0.3 " ++
      "7k800.2 b5uo0.3 7k800.2 b5uo0.3 7x6o0.2 asw00.3 7x6o0.2 asw00.3 7x6o0.2 asw00.3 7x6o0.2 b5uo0.3 " ++
      "7k800.2 b5uo0.3 7k800.2 b5uo0.3 7x6o0.2 asw00.3 7x6o0.2 asw00.3 7x6o0.2 b5uo0.3 7k800.2 b5uo0.3 " ++
      "7k800.2 b5uo0.3 7k800.2 b5uo0.3 7x6o0.2 asw00.3 7x6o0.2 asw00.3;CET-1CEST,M3.5.0,M10.5.0/3",
    "CST6CDT=-21600,-18000d,-18000d,-18000d,-21600;-r0esg0.1 ast80.0 7x9g0.1 ast80.0 bmtus0.2 1tz8c0.3 " ++
      "2dsw0.0 b9gdg0.1 9cyk0.0 9d440.1 9cyk0.0 9d440.1 9cyk0.0 9d440.1 9cyk0.0 9d440.1 9px80.0 9d440.1 " ++
      "9cyk0.0 9d440.1 9cyk0.0 3lpg0.1 f4d80.0 64g40.1 clmk0.0 9d440.1 9px80.0 905g0.1 9px80.0 9d440.1 " ++
      "9cyk0.0 9d440.1 9cyk0.0 9d440.1 9cyk0.0 9d440.1 9cyk0.0 9d440.1 9px80.0 905g0.1 9px80.0 9d440.1 " ++
      "9cyk0.0 9d440.1 9cyk0.0 9d440.1 9cyk0.0 8a840.1 afuk0.0 8a840.1 ast80.0 7x9g0.1 ast80.0 7x9g0.1 " ++
      "ast80.0 8a840.1 afuk0.0 8a840.1 afuk0.0 8a840.1 ast80.0 7x9g0.1 ast80.0 7x9g0.1 ast80.0 8a840.1 " ++
      "afuk0.0 8a840.1 afuk0.0 8a840.1 afuk0.0 8a840.1 ast80.0 7x9g0.1 ast80.0 7x9g0.1 ast80.0 8a840.1 " ++
      "afuk0.0 8a840.1 afuk0.0 8a840.1 ast80.0 7x9g0.1 ast80.0 7x9g0.1 ast80.0 6udg0.1 c8nw0.0 6hes0.1 " ++
      "c8nw0.0 6hes0.1 c8nw0.0 6udg0.1 c8nw0.0 6hes0.1 c8nw0.0 6hes0.1 c8nw0.0 6hes0.1 c8nw0.0 6hes0.1 " ++
      "c8nw0.0 6hes0.1 c8nw0.0 6udg0.1 c8nw0.0 6hes0.1 c8nw0.0 6hes0.1 c8nw0.0 6hes0.1 c8nw0.0 6hes0.1 " ++
      "c8nw0.0 6udg0.1 c8nw0.0 6hes0.1 c8nw0.0 6hes0.1 c8nw0.0 6hes0.1 c8nw0.0 6hes0.1 c8nw0.0 6hes0.1 " ++
      "c8nw0.0 6udg0.1 c8nw0.0 6hes0.1 c8nw0.0 6hes0.1 c8nw0.0 6hes0.1 c8nw0.0 6hes0.1 c8nw0.0 6udg0.1 " ++
      "c8nw0.0 6hes0.1 c8nw0.0 6hes0.1 c8nw0.0 6hes0.1 c8nw0.0 6hes0.1 c8nw0.0 6hes0.1 c8nw0.0;CST6CDT,M3.2.0,M11.1.0",
    "Chile/EasterIsland Pacific/Easter=-26248,-26248,-21600d,-25200,-25200,-21600,-18000d;-15r0p2w.1 " ++
      "m9leo0.4 ivmeuw.2 7k580.3 c8tg0.2 6h980.3 a31g0.2 7x3w0.3 asys0.2 7x3w0.3 b5xg0.2 7k580.3 " ++
      "ag040.2 8a2k0.3 b5xg0.2 7k580.3 b5xg0.2 7x3w0.3 asys0.2 7x3w0.3 asys0.2 7x3w0.3 b5xg0.2 7k580.3 " ++
      "b5xg0.2 7k580.3 b5xg0.2 7x3w0.3 asys0.2 7x3w0.5 asys0.6 7x3w0.5 asys0.6 7x3w0.5 b5xg0.6 7k580.5 " ++
      "b5xg0.6 7k580.5 b5xg0.6 9cyk0.5 9d440.6 7x3w0.5 asys0.6 7x3w0.5 b5xg0.6 7k580.5 9q2s0.6 8zzw0.5 " ++
      "b5xg0.6 7x3w0.5 asys0.6 7x3w0.5 asys0.6 7x3w0.5 asys0.6 7x3w0.5 b5xg0.6 7k580.5 b5xg0.6 8n180.5 " ++
      "a31g0.6 7x3w0.5 a31g0.6 9px80.5 9q2s0.6 7x3w0.5 b5xg0.6 7k580.5 b5xg0.6 7k580.5 b5xg0.6 7k580.5 " ++
      "b5xg0.6 7x3w0.5 asys0.6 7x3w0.5 asys0.6 7x3w0.5 b5xg0.6 7k580.5 b5xg0.6 8n180.5 a31g0.6 7x3w0.5 " ++
      "asys0.6 8zzw0.5 9q2s0.6 ast80.5 5eis0.6 cyl80.5 6hes0.6 c8nw0.5 6udg0.6 bvp80.5 6udg0.6 vonw0.5 " ++
      "4olg0.6 e1h80.5 4olg0.6 e1h80.5 4olg0.6 c8nw0.5 7x9g0.6 ast80.5 7x9g0.6 ast80.5 7x9g0.6 ast80.5 " ++
      "8a840.6 afuk0.5 7x9g0.6 b5rw0.5 7x9g0.6 ast80.5 7x9g0.6 ast80.5 7x9g0.6 ast80.5 7x9g0.6 ast80.5 " ++
      "7x9g0.6 b5rw0.5 7kas0.6 b5rw0.5 7x9g0.6 ast80.5 7x9g0.6 ast80.5 7x9g0.6 ast80.5 7x9g0.6 ast80.5 " ++
      "7x9g0.6 b5rw0.5 7kas0.6 b5rw0.5 7x9g0.6 ast80.5 7x9g0.6 6xxvj.6;<-06>6<-05>,M9.1.6/22,M4.1.6/22",
    "EET=7200,10800d,10800d,7200;3s9ms0.1 902o0.0 9q000.1 9d1c0.0 9d1c0.1 9d1c0.0 9q000.1 902o0.0 " ++
      "9d1c0.1 9d1c0.0 9d1c0.1 9d1c0.0 9d1c0.1 9d1c0.0 9d1c0.1 9q000.0 9d1c0.1 9d1c0.0 9d1c0.1 9d1c0.0 " ++
      "9d1c0.1 9d1c0.0 9d1c0.1 9d1c0.0 9d1c0.1 9d1c0.0 9d1c0.1 9q000.0 9d1c0.1 9d1c0.0 9d1c0.1 9d1c0.0 " ++
      "9d1c0.1 9d1c0.0 9d1c0.1 9d1c0.0 9d1c0.1 9d1c0.0 9q000.1 asw00.0 7x6o0.1 asw00.0 7x6o0.1 asw00.0 " ++
      "7x6o0.1 b5uo0.0 7k800.1 b5uo0.0 7k800.1 b5uo0.0 7x6o0.1 asw00.0 7x6o0.1 asw00.0 7x6o0.1 b5uo0.0 " ++
      "7k800.1 b5uo0.0 7k800.1 b5uo0.0 7k800.1 b5uo0.0 7x6o0.1 asw00.0 7x6o0.1 asw00.0 7x6o0.1 b5uo0.0 " ++
      "7k800.1 b5uo0.0 7k800.1 b5uo0.0 7x6o0.1 asw00.0 7x6o0.1 asw00.0 7x6o0.1 asw00.0 7x6o0.1 b5uo0.0 " ++
      "7k800.1 b5uo0.0 7k800.1 b5uo0.0 7x6o0.1 asw00.0 7x6o0.1 asw00.0 7x6o0.1 b5uo0.0 7k800.1 b5uo0.0 " ++
      "7k800.1 b5uo0.0 7x6o0.1 asw00.0 7x6o0.1 asw00.0 7x6o0.1 asw00.0 7x6o0.1 b5uo0.0 7k800.1 b5uo0.0 " ++
      "7k800.1 b5uo0.0 7x6o0.1 asw00.0 7x6o0.1 asw00.0 7x6o0.1 b5uo0.0 7k800.1 b5uo0.0 7k800.1 b5uo0.0 " ++
      "7k800.1 b5uo0.0 7x6o0.1 asw00.0 7x6o0.1 asw00.0;EET-2EEST,M3.5.0/3,M10.5.0/4",
    "EST5EDT=-18000,-14400d,-14400d,-14400d,-18000;-r0ev80.1 ast80.0 7x9g0.1 ast80.0 bmtus0.2 1tzb40.3 " ++
      "2dq40.0 b9gdg0.1 9cyk0.0 9d440.1 9cyk0.0 9d440.1 9cyk0.0 9d440.1 9cyk0.0 9d440.1 9px80.0 9d440.1 " ++
      "9cyk0.0 9d440.1 9cyk0.0 3lpg0.1 f4d80.0 64g40.1 clmk0.0 9d440.1 9px80.0 905g0.1 9px80.0 9d440.1 " ++
      "9cyk0.0 9d440.1 9cyk0.0 9d440.1 9cyk0.0 9d440.1 9cyk0.0 9d440.1 9px80.0 905g0.1 9px80.0 9d440.1 " ++
      "9cyk0.0 9d440.1 9cyk0.0 9d440.1 9cyk0.0 8a840.1 afuk0.0 8a840.1 ast80.0 7x9g0.1 ast80.0 7x9g0.1 " ++
      "ast80.0 8a840.1 afuk0.0 8a840.1 afuk0.0 8a840.1 ast80.0 7x9g0.1 ast80.0 7x9g0.1 ast80.0 8a840.1 " ++
      "afuk0.0 8a840.1 afuk0.0 8a840.1 afuk0.0 8a840.1 ast80.0 7x9g0.1 ast80.0 7x9g0.1 ast80.0 8a840.1 " ++
      "afuk0.0 8a840.1 afuk0.0 8a840.1 ast80.0 7x9g0.1 ast80.0 7x9g0.1 ast80.0 6udg0.1 c8nw0.0 6hes0.1 " ++
      "c8nw0.0 6hes0.1 c8nw0.0 6udg0.1 c8nw0.0 6hes0.1 c8nw0.0 6hes0.1 c8nw0.0 6hes0.1 c8nw0.0 6hes0.1 " ++
      "c8nw0.0 6hes0.1 c8nw0.0 6udg0.1 c8nw0.0 6hes0.1 c8nw0.0 6hes0.1 c8nw0.0 6hes0.1 c8nw0.0 6hes0.1 " ++
      "c8nw0.0 6udg0.1 c8nw0.0 6hes0.1 c8nw0.0 6hes0.1 c8nw0.0 6hes0.1 c8nw0.0 6hes0.1 c8nw0.0 6hes0.1 " ++
      "c8nw0.0 6udg0.1 c8nw0.0 6hes0.1 c8nw0.0 6hes0.1 c8nw0.0 6hes0.1 c8nw0.0 6hes0.1 c8nw0.0 6udg0.1 " ++
      "c8nw0.0 6hes0.1 c8nw0.0 6hes0.1 c8nw0.0 6hes0.1 c8nw0.0 6hes0.1 c8nw0.0 6hes0.1 c8nw0.0;EST5EDT,M3.2.0,M11.1.0",
    "EST=-18000;;EST5",
    "Eire Europe/Dublin=-1521,-1521,2079d,3600d,0,3600d,0d,3600,3600;-1anxqtr.1 iol480.2 6uao0.4 " ++
      "9pytr.3 8c000.4 9o5c0.3 9ruo0.4 9b6o0.3 9ew00.4 9b6o0.3 auqo0.4 88ao0.3 9ew00.4 8y800.5 a2yo0.4 " ++
      "a2yo0.5 7k800.4 asw00.5 8a5c0.4 asw00.5 8n400.4 a2yo0.5 8n400.4 9q000.5 902o0.4 afxc0.5 8n400.4 " ++
      "a2yo0.5 8n400.4 9q000.5 902o0.4 a2yo0.5 8n400.4 a2yo0.5 8n400.4 9q000.5 9d1c0.4 a2yo0.5 8n400.4 " ++
      "9q000.5 902o0.4 a2yo0.5 8n400.4 a2yo0.5 8n400.4 9q000.5 902o0.4 a2yo0.5 b5uo0.4 51hc0.5 3g8800.4 " ++
      "8a5c0.5 bvs00.4 8n400.5 a2yo0.4 7x6o0.5 asw00.4 8n400.5 9q000.4 902o0.5 9q000.4 9d1c0.5 9q000.4 " ++
      "902o0.5 8n400.4 9q000.5 902o0.4 a2yo0.5 8n400.4 afxc0.5 8n400.4 9q000.5 902o0.4 a2yo0.5 8n400.4 " ++
      "a2yo0.5 8n400.4 9q000.5 902o0.4 902o0.5 b5uo0.4 7k800.5 b5uo0.4 7x6o0.5 asw00.4 7k800.5 b5uo0.4 " ++
      "7k800.5 b5uo0.4 7k800.5 b5uo0.4 7k800.5 bitc0.4 5reo0.5 cyfo0.8 1kjf00.6 779c0.7 bitc0.6 779c0.7 " ++
      "bitc0.6 779c0.7 bitc0.6 779c0.7 bitc0.6 7k800.7 b5uo0.6 7k800.7 b5uo0.6 7k800.7 bitc0.6 779c0.7 " ++
      "bitc0.6 779c0.7 bitc0.6 7x3w0.7 asw00.6 7x6o0.7 asw00.6 7x6o0.7 asw00.6 7x6o0.7 b5uo0.6 7x6o0.7 " ++
      "asw00.6 7x6o0.7 asw00.6 7x6o0.7 asw00.6 7x6o0.7 asw00.6 7x6o0.7 b5uo0.6 7k800.7 b5uo0.6 7x6o0.7 " ++
      "asw00.6 7x6o0.7 asw00.6 7x6o0.7 asw00.6 7x6o0.7 asw00.6 7x6o0.7 asw00.6 8a5c0.7 asw00.6 7x6o0.7 " ++
      "asw00.6 7x6o0.7 asw00.6 7x6o0.7 b5uo0.6 7k800.7 b5uo0.6 7k800.7 b5uo0.6 7x6o0.7 asw00.6 7x6o0.7 " ++
      "asw00.6 7x6o0.7 b5uo0.6 7k800.7 b5uo0.6 7k800.7 b5uo0.6 7k800.7 b5uo0.6 7x6o0.7 asw00.6 7x6o0.7 " ++
      "asw00.6 7x6o0.7 b5uo0.6 7k800.7 b5uo0.6 7k800.7 b5uo0.6 7x6o0.7 asw00.6 7x6o0.7 asw00.6 7x6o0.7 " ++
      "asw00.6 7x6o0.7 b5uo0.6 7k800.7 b5uo0.6 7k800.7 b5uo0.6 7x6o0.7 asw00.6 7x6o0.7 asw00.6 7x6o0.7 " ++
      "b5uo0.6 7k800.7 b5uo0.6 7k800.7 b5uo0.6 7x6o0.7 asw00.6 7x6o0.7 asw00.6 7x6o0.7 asw00.6 7x6o0.7 " ++
      "b5uo0.6 7k800.7 b5uo0.6 7k800.7 b5uo0.6 7x6o0.7 asw00.6 7x6o0.7 asw00.6 7x6o0.7 b5uo0.6 7k800.7 " ++
      "b5uo0.6 7k800.7 b5uo0.6 7k800.7 b5uo0.6 7x6o0.7 asw00.6 7x6o0.7 asw00.6;IST-1GMT0,M10.5.0,M3.5.0/1",
    "Etc/GMT Etc/GMT+0 Etc/GMT-0 Etc/GMT0 Etc/Greenwich GMT GMT+0 GMT-0 GMT0 Greenwich=0;;GMT0",
    "Etc/GMT+10=-36000;;<-10>10",
    "Etc/GMT+11=-39600;;<-11>11",
    "Etc/GMT+12=-43200;;<-12>12",
    "Etc/GMT+1=-3600;;<-01>1",
    "Etc/GMT+2=-7200;;<-02>2",
    "Etc/GMT+3=-10800;;<-03>3",
    "Etc/GMT+4=-14400;;<-04>4",
    "Etc/GMT+5=-18000;;<-05>5",
    "Etc/GMT+6=-21600;;<-06>6",
    "Etc/GMT+7=-25200;;<-07>7",
    "Etc/GMT+8=-28800;;<-08>8",
    "Etc/GMT+9=-32400;;<-09>9",
    "Etc/GMT-10=36000;;<+10>-10",
    "Etc/GMT-11=39600;;<+11>-11",
    "Etc/GMT-12=43200;;<+12>-12",
    "Etc/GMT-13=46800;;<+13>-13",
    "Etc/GMT-14=50400;;<+14>-14",
    "Etc/GMT-1=3600;;<+01>-1",
    "Etc/GMT-2=7200;;<+02>-2",
    "Etc/GMT-3=10800;;<+03>-3",
    "Etc/GMT-4=14400;;<+04>-4",
    "Etc/GMT-5=18000;;<+05>-5",
    "Etc/GMT-6=21600;;<+06>-6",
    "Etc/GMT-7=25200;;<+07>-7",
    "Etc/GMT-8=28800;;<+08>-8",
    "Etc/GMT-9=32400;;<+09>-9",
    "Etc/UCT Etc/UTC Etc/Universal Etc/Zulu UCT UTC Universal Zulu localtime=0;;UTC0",
    "Factory=0;;<-00>0",
    "HST=-36000;;HST10",
    "Kwajalein Pacific/Kwajalein=40160,39600,36000,32400,-43200,43200;-100f8bk.1 ise0fk.2 27sas0.3 " ++
      "1hjus0.1 ddxug0.4 cgv6k0.5 n6g2bj.5;<+12>-12",
    "MET=3600,7200d,7200d,3600;-s0e080.1 7ves0.0 a4yw0.2 7x6o0.3 asw00.2 7x6o0.3 b8qdc0.2 1cm000.3 " ++
      "7k800.2 9q000.3 9d1c0.2 9d1c0.3 9d1c0.2 8l9c0.3 ggp1c0.2 902o0.3 9q000.2 9d1c0.3 9d1c0.2 9d1c0.3 " ++
      "9q000.2 902o0.3 9d1c0.2 9d1c0.3 9d1c0.2 9d1c0.3 9d1c0.2 9d1c0.3 9d1c0.2 9q000.3 9d1c0.2 9d1c0.3 " ++
      "9d1c0.2 9d1c0.3 9d1c0.2 9d1c0.3 9d1c0.2 9d1c0.3 9d1c0.2 9d1c0.3 9d1c0.2 9q000.3 9d1c0.2 9d1c0.3 " ++
      "9d1c0.2 9d1c0.3 9d1c0.2 9d1c0.3 9d1c0.2 9d1c0.3 9d1c0.2 9d1c0.3 9q000.2 asw00.3 7x6o0.2 asw00.3 " ++
      "7x6o0.2 asw00.3 7x6o0.2 b5uo0.3 7k800.2 b5uo0.3 7k800.2 b5uo0.3 7x6o0.2 asw00.3 7x6o0.2 asw00.3 " ++
      "7x6o0.2 b5uo0.3 7k800.2 b5uo0.3 7k800.2 b5uo0.3 7k800.2 b5uo0.3 7x6o0.2 asw00.3 7x6o0.2 asw00.3 " ++
      "7x6o0.2 b5uo0.3 7k800.2 b5uo0.3 7k800.2 b5uo0.3 7x6o0.2 asw00.3 7x6o0.2 asw00.3 7x6o0.2 asw00.3 " ++
      "7x6o0.2 b5uo0.3 7k800.2 b5uo0.3 7k800.2 b5uo0.3 7x6o0.2 asw00.3 7x6o0.2 asw00.3 7x6o0.2 b5uo0.3 " ++
      "7k800.2 b5uo0.3 7k800.2 b5uo0.3 7x6o0.2 asw00.3 7x6o0.2 asw00.3 7x6o0.2 asw00.3 7x6o0.2 b5uo0.3 " ++
      "7k800.2 b5uo0.3 7k800.2 b5uo0.3 7x6o0.2 asw00.3 7x6o0.2 asw00.3 7x6o0.2 b5uo0.3 7k800.2 b5uo0.3 " ++
      "7k800.2 b5uo0.3 7k800.2 b5uo0.3 7x6o0.2 asw00.3 7x6o0.2 asw00.3;MET-1MEST,M3.5.0,M10.5.0/3",
    "MST7MDT=-25200,-21600d,-21600d,-21600d,-25200;-r0epo0.1 ast80.0 7x9g0.1 ast80.0 bmtus0.2 1tz5k0.3 " ++
      "2dvo0.0 b9gdg0.1 9cyk0.0 9d440.1 9cyk0.0 9d440.1 9cyk0.0 9d440.1 9cyk0.0 9d440.1 9px80.0 9d440.1 " ++
      "9cyk0.0 9d440.1 9cyk0.0 3lpg0.1 f4d80.0 64g40.1 clmk0.0 9d440.1 9px80.0 905g0.1 9px80.0 9d440.1 " ++
      "9cyk0.0 9d440.1 9cyk0.0 9d440.1 9cyk0.0 9d440.1 9cyk0.0 9d440.1 9px80.0 905g0.1 9px80.0 9d440.1 " ++
      "9cyk0.0 9d440.1 9cyk0.0 9d440.1 9cyk0.0 8a840.1 afuk0.0 8a840.1 ast80.0 7x9g0.1 ast80.0 7x9g0.1 " ++
      "ast80.0 8a840.1 afuk0.0 8a840.1 afuk0.0 8a840.1 ast80.0 7x9g0.1 ast80.0 7x9g0.1 ast80.0 8a840.1 " ++
      "afuk0.0 8a840.1 afuk0.0 8a840.1 afuk0.0 8a840.1 ast80.0 7x9g0.1 ast80.0 7x9g0.1 ast80.0 8a840.1 " ++
      "afuk0.0 8a840.1 afuk0.0 8a840.1 ast80.0 7x9g0.1 ast80.0 7x9g0.1 ast80.0 6udg0.1 c8nw0.0 6hes0.1 " ++
      "c8nw0.0 6hes0.1 c8nw0.0 6udg0.1 c8nw0.0 6hes0.1 c8nw0.0 6hes0.1 c8nw0.0 6hes0.1 c8nw0.0 6hes0.1 " ++
      "c8nw0.0 6hes0.1 c8nw0.0 6udg0.1 c8nw0.0 6hes0.1 c8nw0.0 6hes0.1 c8nw0.0 6hes0.1 c8nw0.0 6hes0.1 " ++
      "c8nw0.0 6udg0.1 c8nw0.0 6hes0.1 c8nw0.0 6hes0.1 c8nw0.0 6hes0.1 c8nw0.0 6hes0.1 c8nw0.0 6hes0.1 " ++
      "c8nw0.0 6udg0.1 c8nw0.0 6hes0.1 c8nw0.0 6hes0.1 c8nw0.0 6hes0.1 c8nw0.0 6hes0.1 c8nw0.0 6udg0.1 " ++
      "c8nw0.0 6hes0.1 c8nw0.0 6hes0.1 c8nw0.0 6hes0.1 c8nw0.0 6hes0.1 c8nw0.0 6hes0.1 c8nw0.0;MST7MDT,M3.2.0,M11.1.0",
    "MST=-25200;;MST7",
    "NZ-CHAT Pacific/Chatham=44028,44100,49500d,45900,45900;-1gsp0n0.1 149qqm0.4 f1tq90.2 5reo0.3 " ++
      "clpc0.2 6uao0.3 c8qo0.2 6hc00.3 c8qo0.2 6hc00.3 c8qo0.2 6hc00.3 c8qo0.2 6hc00.3 c8qo0.2 6hc00.3 " ++
      "c8qo0.2 6uao0.3 c8qo0.2 6hc00.3 c8qo0.2 6hc00.3 c8qo0.2 6hc00.3 c8qo0.2 6hc00.3 c8qo0.2 6hc00.3 " ++
      "c8qo0.2 6uao0.3 c8qo0.2 6hc00.3 b5uo0.2 8a5c0.3 afxc0.2 8a5c0.3 afxc0.2 8a5c0.3 afxc0.2 8n400.3 " ++
      "a2yo0.2 8n400.3 a2yo0.2 8n400.3 a2yo0.2 8n400.3 afxc0.2 8a5c0.3 afxc0.2 8a5c0.3 afxc0.2 8n400.3 " ++
      "a2yo0.2 8n400.3 a2yo0.2 8n400.3 afxc0.2 8a5c0.3 afxc0.2 8a5c0.3 afxc0.2 8n400.3 a2yo0.2 8n400.3 " ++
      "a2yo0.2 8n400.3 a2yo0.2 8n400.3 a2yo0.2 9q000.3 902o0.2 9q000.3 902o0.2 9q000.3 902o0.2 9q000.3 " ++
      "902o0.2 9q000.3 9d1c0.2 9q000.3 902o0.2 9q000.3 902o0.2 9q000.3 902o0.2 9q000.3 902o0.2 9q000.3 " ++
      "902o0.2 9q000.3 9d1c0.2 9q000.3 902o0.2 9q000.3 902o0.2 9q000.3 902o0.2 9q000.3 902o0.2 9q000.3 " ++
      "902o0.2 a2yo0.3 902o0.2 9q000.3 902o0.2 9q000.3 902o0.2 9q000.3 902o0.2 9q000.3 902o0.2 9q000.3 " ++
      "9d1c0.2 9q000.3 902o0.2 9q000.3 902o0.2 9q000.3 902o0.2 9q000.3 902o0.2 9q000.3 902o0.2 9q000.3 " ++
      "9d1c0.2 9q000.3 902o0.2 9q000.3 902o0.2 5w4rj.2;<+1245>-12:45<+1345>,M9.5.0/2:45,M4.1.0/3:45",
    "PST8PDT=-28800,-25200d,-25200d,-25200d,-28800;-r0emw0.1 ast80.0 7x9g0.1 ast80.0 bmtus0.2 1tz2s0.3 " ++
      "2dyg0.0 b9gdg0.1 9cyk0.0 9d440.1 9cyk0.0 9d440.1 9cyk0.0 9d440.1 9cyk0.0 9d440.1 9px80.0 9d440.1 " ++
      "9cyk0.0 9d440.1 9cyk0.0 3lpg0.1 f4d80.0 64g40.1 clmk0.0 9d440.1 9px80.0 905g0.1 9px80.0 9d440.1 " ++
      "9cyk0.0 9d440.1 9cyk0.0 9d440.1 9cyk0.0 9d440.1 9cyk0.0 9d440.1 9px80.0 905g0.1 9px80.0 9d440.1 " ++
      "9cyk0.0 9d440.1 9cyk0.0 9d440.1 9cyk0.0 8a840.1 afuk0.0 8a840.1 ast80.0 7x9g0.1 ast80.0 7x9g0.1 " ++
      "ast80.0 8a840.1 afuk0.0 8a840.1 afuk0.0 8a840.1 ast80.0 7x9g0.1 ast80.0 7x9g0.1 ast80.0 8a840.1 " ++
      "afuk0.0 8a840.1 afuk0.0 8a840.1 afuk0.0 8a840.1 ast80.0 7x9g0.1 ast80.0 7x9g0.1 ast80.0 8a840.1 " ++
      "afuk0.0 8a840.1 afuk0.0 8a840.1 ast80.0 7x9g0.1 ast80.0 7x9g0.1 ast80.0 6udg0.1 c8nw0.0 6hes0.1 " ++
      "c8nw0.0 6hes0.1 c8nw0.0 6udg0.1 c8nw0.0 6hes0.1 c8nw0.0 6hes0.1 c8nw0.0 6hes0.1 c8nw0.0 6hes0.1 " ++
      "c8nw0.0 6hes0.1 c8nw0.0 6udg0.1 c8nw0.0 6hes0.1 c8nw0.0 6hes0.1 c8nw0.0 6hes0.1 c8nw0.0 6hes0.1 " ++
      "c8nw0.0 6udg0.1 c8nw0.0 6hes0.1 c8nw0.0 6hes0.1 c8nw0.0 6hes0.1 c8nw0.0 6hes0.1 c8nw0.0 6hes0.1 " ++
      "c8nw0.0 6udg0.1 c8nw0.0 6hes0.1 c8nw0.0 6hes0.1 c8nw0.0 6hes0.1 c8nw0.0 6hes0.1 c8nw0.0 6udg0.1 " ++
      "c8nw0.0 6hes0.1 c8nw0.0 6hes0.1 c8nw0.0 6hes0.1 c8nw0.0 6hes0.1 c8nw0.0 6hes0.1 c8nw0.0;PST8PDT,M3.2.0,M11.1.0",
    "WET=0,3600d,3600d,0;3s9ms0.1 902o0.0 9q000.1 9d1c0.0 9d1c0.1 9d1c0.0 9q000.1 902o0.0 9d1c0.1 " ++
      "9d1c0.0 9d1c0.1 9d1c0.0 9d1c0.1 9d1c0.0 9d1c0.1 9q000.0 9d1c0.1 9d1c0.0 9d1c0.1 9d1c0.0 9d1c0.1 " ++
      "9d1c0.0 9d1c0.1 9d1c0.0 9d1c0.1 9d1c0.0 9d1c0.1 9q000.0 9d1c0.1 9d1c0.0 9d1c0.1 9d1c0.0 9d1c0.1 " ++
      "9d1c0.0 9d1c0.1 9d1c0.0 9d1c0.1 9d1c0.0 9q000.1 asw00.0 7x6o0.1 asw00.0 7x6o0.1 asw00.0 7x6o0.1 " ++
      "b5uo0.0 7k800.1 b5uo0.0 7k800.1 b5uo0.0 7x6o0.1 asw00.0 7x6o0.1 asw00.0 7x6o0.1 b5uo0.0 7k800.1 " ++
      "b5uo0.0 7k800.1 b5uo0.0 7k800.1 b5uo0.0 7x6o0.1 asw00.0 7x6o0.1 asw00.0 7x6o0.1 b5uo0.0 7k800.1 " ++
      "b5uo0.0 7k800.1 b5uo0.0 7x6o0.1 asw00.0 7x6o0.1 asw00.0 7x6o0.1 asw00.0 7x6o0.1 b5uo0.0 7k800.1 " ++
      "b5uo0.0 7k800.1 b5uo0.0 7x6o0.1 asw00.0 7x6o0.1 asw00.0 7x6o0.1 b5uo0.0 7k800.1 b5uo0.0 7k800.1 " ++
      "b5uo0.0 7x6o0.1 asw00.0 7x6o0.1 asw00.0 7x6o0.1 asw00.0 7x6o0.1 b5uo0.0 7k800.1 b5uo0.0 7k800.1 " ++
      "b5uo0.0 7x6o0.1 asw00.0 7x6o0.1 asw00.0 7x6o0.1 b5uo0.0 7k800.1 b5uo0.0 7k800.1 b5uo0.0 7k800.1 " ++
      "b5uo0.0 7x6o0.1 asw00.0 7x6o0.1 asw00.0;WET0WEST,M3.5.0/1,M10.5.0"]

end PortableSearch.Zone.Data
