/-! Time-zone rules of Asia, Australia, the Pacific and the Indian Ocean, from release 2025c of the
tz database (links as 2025b resolves them). Each item names the zones that share one rule set, then
`=` and the text of their rules that `Zone.Table.ofText` reads. -/

namespace PortableSearch.Zone.Data

/-- Rules of Asia, Australia, the Pacific and the Indian Ocean, one item per rule set. -/
def asiaPacific : List String := [
    "Asia/Aden=10794,10800;-afs0bu.1 19yc1bd.1;<+03>-3",
    "Asia/Almaty=18468,18000,25200d,21600,21600,25200d,21600d,18000,25200d;-nu1a90.1 37a0d0.3 qi27w0.2 " ++
      "9et80.3 9d440.2 9et80.3 9d440.2 9et80.3 9eys0.2 9d6w0.4 9d1c0.5 9d1c0.4 9d1c0.5 9d1c0.4 9d1c0.5 " ++
      "9d1c0.4 9d1c0.5 9d1c0.4 9d1c0.5 9d1c0.4 9d1c0.5 9q000.4 9d1c0.6 9d440.7 5reo0.4 3ljw0.5 9d1c0.4 " ++
      "9d1c0.5 9d1c0.4 9d1c0.5 9d1c0.4 9d1c0.5 9d1c0.4 9q000.5 asw00.4 7x6o0.5 asw00.4 7x6o0.5 asw00.4 " ++
      "7x6o0.5 b5uo0.4 7k800.5 b5uo0.4 7k800.5 b5uo0.4 7x6o0.5 asw00.4 7x6o0.5 asw00.4 7x6o0.5 b5uo0.4 " ++
      "a37rs0.1 78xazj.1;<+05>-5",
    "Asia/Amman=8624,10800d,7200,7200,10800d,10800;-kcrtbk.2 m566fk.1 60l80.2 awo40.1 7v980.2 awo40.1 " ++
      "7v980.2 ayis0.1 9gnw0.2 9b9g0.1 7v980.2 autg0.1 7v980.2 3e6840.1 9et80.2 9io40.1 9cyk0.2 9d440.1 " ++
      "9cyk0.2 9d440.1 9px80.2 ayis0.1 7rjw0.2 ag040.1 8a2k0.2 9zc40.1 8drw0.2 a31g0.1 8zzw0.2 9d440.1 " ++
      "9cyk0.2 9d440.1 8n180.2 ag040.1 8a5c0.3 afxc0.1 8n400.3 a2yo0.1 8n400.3 a2yo0.1 8n400.3 epmo0.4 " ++
      "4deo0.3 9o5c0.4 9ew00.3 9b6o0.4 9ew00.3 9d1c0.1 9d1c0.3 9d1c0.1 asw00.3 7x6o0.1 afxc0.3 8n400.1 " ++
      "9d1c0.3 9d1c0.1 asw00.3 7x6o0.1 asw00.3 7x6o0.1 b5uo0.3 7k800.1 b5uo0.3 7k800.1 b5uo0.3 7x6o0.1 " ++
      "asw00.3 7x6o0.1 wel80.2 51k40.1 b5uo0.3 7k800.1 b5uo0.3 7x6o0.1 asw00.3 7x6o0.1 asw00.3 7x6o0.1 " ++
      "asw00.3 7x6o0.1 asw00.3 7x6o0.1 b5uo0.3 7k800.1 b5uo0.3 64dc0.1 clpc0.5 7y4ejj.5;<+03>-3",
    "Asia/Anadyr=42596,43200,50400d,46800,46800d,43200,46800d,43200d,39600,43200;-nu1sv8.1 379zj8.3 " ++
      "qi27w0.2 9et80.3 9d440.4 9ew00.1 9d440.4 9et80.1 9eys0.4 9d6w0.5 9d1c0.6 9d1c0.5 9d1c0.6 9d1c0.5 " ++
      "9d1c0.6 9d1c0.5 9d1c0.6 9d1c0.5 9d1c0.6 9d1c0.5 9d1c0.6 9q000.5 9d1c0.7 9d440.8 5reo0.5 3ljw0.6 " ++
      "9d1c0.5 9d1c0.6 9d1c0.5 9d1c0.6 9d1c0.5 9d1c0.6 9d1c0.5 9q000.6 asw00.5 7x6o0.6 asw00.5 7x6o0.6 " ++
      "asw00.5 7x6o0.6 b5uo0.5 7k800.6 b5uo0.5 7k800.6 b5uo0.5 7x6o0.6 asw00.5 7x6o0.6 asw00.5 7x6o0.6 " ++
      "b5uo0.5 7k800.6 b5uo0.5 7k800.6 b5uo0.5 7k800.6 b5uo0.5 7x6o0.6 asw00.5 7x6o0.6 asw00.5 7x6o0.7 " ++
      "b5xg0.8 7k800.5 dzvtzj.5;<+12>-12",
    "Asia/Aqtau=12064,14400,18000,21600,21600d,18000,21600d,18000d,14400,18000;-nu15b4.1 379y74.2 " ++
      "qrh3w0.3 9cyk0.4 9ew00.2 9d440.4 9et80.2 9eys0.4 9d6w0.5 9d1c0.6 9d1c0.5 9d1c0.6 9d1c0.5 9d1c0.6 " ++
      "9d1c0.5 9d1c0.6 9d1c0.5 9d1c0.6 9d1c0.5 9d1c0.6 9q000.5 9d1c0.7 9d440.8 5reo0.5 3ljw0.6 9d1c0.5 " ++
      "9d1c0.6 9d1c0.5 9d1c0.6 9d1c0.8 9d440.7 9d1c0.8 9q000.7 asw00.8 7x6o0.7 asw00.8 7x6o0.7 asw00.8 " ++
      "7x6o0.7 b5uo0.8 7k800.7 b5uo0.8 7k800.7 b5uo0.8 7x6o0.7 asw00.8 7x6o0.7 asw00.8 7x6o0.7 b5uo0.5 " ++
      "hc4x7j.5;<+05>-5",
    "Asia/Aqtobe=13720,14400,18000,21600d,21600,18000,21600d,18000d,14400,21600d,18000;-nu16l4.1 " ++
      "379zh4.2 qi27w0.3 9et80.4 9d1c0.3 9ew00.2 9d440.3 9et80.2 9eys0.3 9d6w0.5 9d1c0.6 9d1c0.5 " ++
      "9d1c0.6 9d1c0.5 9d1c0.6 9d1c0.5 9d1c0.6 9d1c0.5 9d1c0.6 9d1c0.5 9d1c0.6 9q000.5 9d1c0.7 9d440.8 " ++
      "5reo0.5 3ljw0.6 9d1c0.5 9d1c0.6 9d1c0.5 9d1c0.6 9d1c0.5 9d1c0.6 9d1c0.5 9q000.6 asw00.5 7x6o0.6 " ++
      "asw00.5 7x6o0.6 asw00.5 7x6o0.6 b5uo0.5 7k800.6 b5uo0.5 7k800.6 b5uo0.5 7x6o0.6 asw00.5 7x6o0.6 " ++
      "asw00.5 7x6o0.6 b5uo0.5 hc4zzj.5;<+05>-5",
    "Asia/Ashgabat Asia/Ashkhabad=14012,14400,21600d,18000,18000,21600d,18000d,14400,18000;-nu16t8.1 " ++
      "379zp8.3 qi27w0.2 9et80.3 9d440.2 9et80.3 9d440.2 9et80.3 9eys0.2 9d6w0.4 9d1c0.5 9d1c0.4 " ++
      "9d1c0.5 9d1c0.4 9d1c0.5 9d1c0.4 9d1c0.5 9d1c0.4 9d1c0.5 9d1c0.4 9d1c0.5 9q000.4 9d1c0.6 9d440.7 " ++
      "5reo0.3 o0b7vj.3;<+05>-5",
    "Asia/Atyrau=12464,10800,18000,21600,21600d,18000,21600d,18000d,14400,18000;-nu15m8.1 37a1a8.2 " ++
      "qrh140.3 9cyk0.4 9ew00.2 9d440.4 9et80.2 9eys0.4 9d6w0.5 9d1c0.6 9d1c0.5 9d1c0.6 9d1c0.5 9d1c0.6 " ++
      "9d1c0.5 9d1c0.6 9d1c0.5 9d1c0.6 9d1c0.5 9d1c0.6 9q000.5 9d1c0.7 9d440.8 5reo0.5 3ljw0.6 9d1c0.5 " ++
      "9d1c0.6 9d1c0.5 9d1c0.6 9d1c0.5 9d1c0.6 9d1c0.5 9q000.6 asw00.5 7x6o0.6 asw00.5 7x6o0.6 asw00.5 " ++
      "7x6o0.7 b5xg0.8 7k800.7 b5uo0.8 7k800.7 b5uo0.8 7x6o0.7 asw00.8 7x6o0.7 asw00.8 7x6o0.7 b5uo0.5 " ++
      "hc4x7j.5;<+05>-5",
    "Asia/Baghdad=10660,10656,10800,14400d,10800,14400d;-15r1hk4.1 em11c4.2 xkn3w0.3 7v980.2 9b9g0.3 " ++
      "9gnw0.2 9eys0.3 9et80.2 9d440.3 9b9g0.4 9d1c0.5 9d1c0.4 9d1c0.5 9d1c0.4 9d1c0.5 9d1c0.4 9d1c0.5 " ++
      "9d1c0.4 9d1c0.5 9q000.4 9f1k0.5 9ew00.4 9ew00.5 9ew00.4 9d1c0.5 9ew00.4 9d1c0.5 9ew00.4 9d1c0.5 " ++
      "9ew00.4 9ew00.5 9ew00.4 9d1c0.5 9ew00.4 9d1c0.5 9ew00.4 9d1c0.5 9ew00.4 9ew00.5 9ew00.4 9d1c0.5 " ++
      "9ew00.4 9d1c0.5 9ew00.4 9d1c0.5 9ew00.4 9ew00.5 9ew00.4 9d1c0.5 9ew00.4 9d1c0.5 9ew00.4 9d1c0.5 " ++
      "9ew00.4 ftcjnj.4;<+03>-3",
    "Asia/Bahrain=12140,12600,14400,10800;-eukpd8.1 1a1eb8.2 etwby0.3 y9703j.3;<+03>-3",
    "Asia/Baku=11964,10800,18000d,14400,14400,18000d,14400d,10800,18000d,14400;-nu158c.1 h4tkwc.3 " ++
      "ckinw0.2 9et80.3 9d440.2 9et80.3 9d440.2 9et80.3 9eys0.2 9d6w0.4 9d1c0.5 9d1c0.4 9d1c0.5 9d1c0.4 " ++
      "9d1c0.5 9d1c0.4 9d1c0.5 9d1c0.4 9d1c0.5 9d1c0.4 9d1c0.5 9q000.4 9d1c0.6 9d440.7 9d1c0.6 9d1c0.4 " ++
      "1twdk0.8 asw00.9 7x3w0.2 asw00.3 7x6o0.2 asw00.3 7x6o0.2 b5uo0.3 7k800.2 b5uo0.3 7k800.2 b5uo0.3 " ++
      "7x6o0.2 asw00.3 7x6o0.2 asw00.3 7x6o0.2 b5uo0.3 7k800.2 b5uo0.3 7k800.2 b5uo0.3 7k800.2 b5uo0.3 " ++
      "7x6o0.2 asw00.3 7x6o0.2 asw00.3 7x6o0.2 b5uo0.3 7k800.2 b5uo0.3 7k800.2 b5uo0.3 7x6o0.2 asw00.3 " ++
      "7x6o0.2 asw00.3 7x6o0.2 asw00.3 blsznj.3;<+04>-4",
    "Asia/Bangkok=24124,24124,25200;-1ayyla4.1 l06800.2 1phce9n.2;<+07>-7",
    "Asia/Barnaul=20100,21600,28800d,25200,25200,28800d,25200d,21600,25200d,25200;-q4ljic.1 5hu6uc.3 " ++
      "qi27w0.2 9et80.3 9d440.2 9et80.3 9d440.2 9et80.3 9eys0.2 9d6w0.4 9d1c0.5 9d1c0.4 9d1c0.5 9d1c0.4 " ++
      "9d1c0.5 9d1c0.4 9d1c0.5 9d1c0.4 9d1c0.5 9d1c0.4 9d1c0.5 9q000.4 9d1c0.6 9d440.7 5reo0.4 3ljw0.5 " ++
      "9d1c0.4 9d1c0.5 9d1c0.4 9d1c0.5 9d1c0.4 9d1c0.5 38fo0.8 64og0.7 9q000.6 asw00.7 7x6o0.6 asw00.7 " ++
      "7x6o0.6 asw00.7 7x6o0.6 b5uo0.7 7k800.6 b5uo0.7 7k800.6 b5uo0.7 7x6o0.6 asw00.7 7x6o0.6 asw00.7 " ++
      "7x6o0.6 b5uo0.7 7k800.6 b5uo0.7 7k800.6 b5uo0.7 7k800.6 b5uo0.7 7x6o0.6 asw00.7 7x6o0.6 asw00.7 " ++
      "7x6o0.6 b5uo0.7 7k800.4 1vbzw0.7 qnc40.4 bdw43j.4;<+07>-7",
    "Asia/Beirut=8520,10800d,7200;-1ayy98o.2 kzyuco.1 aunw0.2 88dg0.1 9et80.2 8yas0.1 a2vw0.2 a31g0.1 " ++
      "7k580.2 hjqo40.1 7v980.2 awo40.1 7v980.2 awo40.1 7v980.2 ayis0.1 7v980.2 awo40.1 7v980.2 5lhs40.1 " ++
      "56yk0.2 awo40.1 7v980.2 awo40.1 7v980.2 awo40.1 7v980.2 ayis0.1 7v980.2 awo40.1 7v980.2 autg0.1 " ++
      "7v980.2 2wxus0.1 8n180.2 a4w40.1 8n180.2 a4w40.1 8n180.2 a4w40.1 8n180.2 bs5g0.1 71mk0.2 alk40.1 " ++
      "86d80.2 a4w40.1 8n180.2 a4w40.1 8n180.2 a6qs0.1 80t80.2 905g0.1 9cyk0.2 9d440.1 9cyk0.2 9d440.1 " ++
      "9cyk0.2 9q2s0.1 9cyk0.2 9d440.1 9cyk0.2 9d440.1 9cyk0.2 9d440.1 b5rw0.2 7kas0.1 b5rw0.2 7kas0.1 " ++
      "b5rw0.2 7x9g0.1 ast80.2 7x9g0.1 ast80.2 7x9g0.1 b5rw0.2 7kas0.1 b5rw0.2 7kas0.1 b5rw0.2 7kas0.1 " ++
      "b5rw0.2 7x9g0.1 ast80.2 7x9g0.1 ast80.2 7x9g0.1 b5rw0.2 7kas0.1 b5rw0.2 7kas0.1 b5rw0.2 7x9g0.1 " ++
      "ast80.2 7x9g0.1 ast80.2 7x9g0.1 ast80.2 7x9g0.1 b5rw0.2 7kas0.1 b5rw0.2 7kas0.1 b5rw0.2 7x9g0.1 " ++
      "ast80.2 7x9g0.1 ast80.2 7x9g0.1 b5rw0.2 7kas0.1 b5rw0.2 7kas0.1 b5rw0.2 7x9g0.1 ast80.2 7x9g0.1 " ++
      "ast80.2 7x9g0.1 ast80.2 7x9g0.1 b5rw0.2 7kas0.1 b5rw0.2 7kas0.1 b5rw0.2 7x9g0.1 ast80.2 7x9g0.1 " ++
      "ast80.2 7x9g0.1 b5rw0.2 7kas0.1 b5rw0.2 7kas0.1 b5rw0.2 7kas0.1 b5rw0.2 7x9g0.1 ast80.2 7x9g0.1 " ++
      "ast80.2;EET-2EEST,M3.5.0/0,M10.5.0/0",
    "Asia/Bishkek=17904,18000,25200d,21600,21600,25200d,21600d,21600d;-nu19tc.1 379zxc.3 qi27w0.2 " ++
      "9et80.3 9d440.2 9et80.3 9d440.2 9et80.3 9eys0.2 9d6w0.4 9d1c0.5 9d1c0.4 9d1c0.5 9d1c0.4 9d1c0.5 " ++
      "9d1c0.4 9d1c0.5 9d1c0.4 9d1c0.5 9d1c0.4 9d1c0.5 9q000.4 9d1c0.6 7vc00.1 bkl80.6 8n180.1 a31g0.6 " ++
      "8n180.1 a31g0.6 8n180.1 a31g0.6 8n180.1 a31g0.6 8zzw0.1 9db20.7 ast80.1 7x9g0.7 ast80.1 7x9g0.7 " ++
      "b5rw0.1 7kas0.7 b5rw0.1 7kas0.7 b5rw0.1 7x9g0.7 ast80.1 7x9g0.7 ast80.1 7x9g0.7 b5rw0.1 7kas0.7 " ++
      "73aa0.3 gxhgbj.3;<+06>-6",
    "Asia/Brunei=27580,27000,28800;-mvofy4.1 3khxs4.2 1itqj5j.2;<+08>-8",
    "Asia/Calcutta Asia/Kolkata=21208,21200,19270,19800,23400d;-1oaa314.1 83glc8.2 isc6tm.3 innm9a.4 " ++
      "bmfw0.3 5lxg0.4 1mn180.3;IST-5:30",
    "Asia/Chita=27232,28800,36000d,32400,32400,36000d,32400d,28800,36000,36000d,32400;-q4cfog.1 " ++
      "5hkxgg.3 qi27w0.2 9et80.3 9d440.2 9et80.3 9d440.2 9et80.3 9eys0.2 9d6w0.4 9d1c0.5 9d1c0.4 " ++
      "9d1c0.5 9d1c0.4 9d1c0.5 9d1c0.4 9d1c0.5 9d1c0.4 9d1c0.5 9d1c0.4 9d1c0.5 9q000.4 9d1c0.6 9d440.7 " ++
      "5reo0.4 3ljw0.5 9d1c0.4 9d1c0.5 9d1c0.4 9d1c0.5 9d1c0.4 9d1c0.5 9d1c0.4 9q000.5 asw00.4 7x6o0.5 " ++
      "asw00.4 7x6o0.5 asw00.4 7x6o0.5 b5uo0.4 7k800.5 b5uo0.4 7k800.5 b5uo0.4 7x6o0.5 asw00.4 7x6o0.5 " ++
      "asw00.4 7x6o0.5 b5uo0.4 7k800.5 b5uo0.4 7k800.5 b5uo0.4 7k800.5 b5uo0.4 7x6o0.5 asw00.4 7x6o0.5 " ++
      "asw00.4 7x6o0.5 b5uo0.4 7k800.8 1vbzw0.7 qnew0.3 bdw9nj.3;<+09>-9",
    "Asia/Choibalsan Asia/Ulaanbaatar Asia/Ulan_Bator=25652,25200,32400d,28800;-xmcrsk.1 11sncck.3 " ++
      "2qk2k0.2 9et80.3 9eys0.2 9cyk0.3 9d440.2 9cyk0.3 9d440.2 9cyk0.3 9d440.2 9cyk0.3 9d440.2 9cyk0.3 " ++
      "9d440.2 9cyk0.3 9d440.2 9px80.3 9d440.2 9cyk0.3 9d440.2 9cyk0.3 9d440.2 9cyk0.3 9d440.2 9cyk0.3 " ++
      "9d440.2 9cyk0.3 9q2s0.2 9cyk0.3 9d440.2 9cyk0.3 9d440.2 9cyk0.3 1ckdo0.2 7x3w0.3 9d440.2 9cyk0.3 " ++
      "9d440.2 9cyk0.3 9d440.2 9cyk0.3 9d440.2 9cyk0.3 9d440.2 9px80.3 4fio40.2 9ct00.3 9d9o0.2 9ct00.3 " ++
      "b4lbbj.3;<+08>-8",
    "Asia/Chongqing Asia/Chungking Asia/Harbin Asia/Shanghai PRC=29143,32400d,28800;-100eztj.2 " ++
      "9jeyxj.1 8sl80.2 asbpg0.1 6w2k0.2 7ves0.1 bxjw0.2 4mqs0.1 1vduk0.2 d4as0.1 75bw0.2 a31g0.1 " ++
      "aaak0.2 9d440.1 7v980.2 awo40.1 1dx80.2 j9xpo0.1 6u7w0.2 asys0.1 7x3w0.2 b5xg0.1 7k580.2 b5xg0.1 " ++
      "7x3w0.2 asys0.1 7x3w0.2 asys0.1 7x3w0.2;CST-8",
    "Asia/Colombo=19164,19172,19800,21600d,23400d,23400,21600,19800;-1ayyhgc.1 dkh6ns.2 isle6k.3 " ++
      "cajy0.4 1mp2u0.2 qetjw0.5 7x5a0.6 4xvqq0.2 gktuxj.2;<+0530>-5:30",
    "Asia/Dacca Asia/Dhaka=21700,21200,23400,19800,21600,25200d;-15r1q2s.1 r080dw.2 bmgyw.3 5lxg0.2 " ++
      "4qknw0.4 u4ijy0.5 a1400.4 en10fj.4;<+06>-6",
    "Asia/Damascus=8712,10800d,7200,10800;-q3gk20.2 5k6q0.1 8n180.2 a31g0.1 8n180.2 a31g0.1 8n180.2 " ++
      "a31g0.1 8zzw0.2 k4hk40.1 7yyk0.2 awo40.1 7tek0.2 b0dg0.1 7v980.2 awo40.1 7tek0.2 alk40.1 887w0.2 " ++
      "awo40.1 7v980.2 ayis0.1 7v980.2 awo40.1 7v980.2 awo40.1 7v980.2 awo40.1 7v980.2 ayis0.1 7v980.2 " ++
      "awo40.1 7v980.2 awo40.1 7v980.2 awo40.1 7v980.2 ayis0.1 7v980.2 awo40.1 6bp80.2 cg840.1 6bp80.2 " ++
      "2eh1g0.1 8zzw0.2 9ts40.1 8zzw0.2 pvk40.1 c33w0.2 7cw40.1 cjrw0.2 6zxg0.1 btuk0.2 7rpg0.1 9gnw0.2 " ++
      "9d440.1 9cyk0.2 9et80.1 9et80.2 9rxg0.1 91uk0.2 92040.1 9et80.2 9o840.1 9et80.2 9d440.1 9et80.2 " ++
      "9eys0.1 9et80.2 9b9g0.1 9gnw0.2 99es0.1 9iik0.2 9d440.1 9et80.2 9eys0.1 9et80.2 9d440.1 9et80.2 " ++
      "9d440.1 9et80.2 9d440.1 9et80.2 9eys0.1 9et80.2 9d440.1 9et80.2 9d440.1 8y580.2 9q2s0.1 b5rw0.2 " ++
      "7x9g0.1 aunw0.2 7ig40.1 b5rw0.2 7x9g0.1 ast80.2 7x9g0.1 ast80.2 7x9g0.1 ast80.2 7x9g0.1 ast80.2 " ++
      "7x9g0.1 b5rw0.2 7kas0.1 b5rw0.2 7kas0.1 b5rw0.2 7x9g0.1 ast80.2 7x9g0.1 ast80.2 7x9g0.1 ast80.2 " ++
      "7x9g0.1 b5rw0.2 7kas0.1 b5rw0.2 7kas0.1 b5rw0.3 7y4hbj.3;<+03>-3",
    "Asia/Dili=30140,28800,32400,28800,32400;-u9s3k0.1 fqct80.2 hufs00.3 cpz440.2 jhkf7j.2;<+09>-9",
    "Asia/Dubai=13272,14400;-q3gnko.1 1pm0ok7.1;<+04>-4",
    "Asia/Dushanbe=16512,18000,25200d,21600,21600,25200d,21600d,18000;-nu18qo.1 379yuo.3 qi27w0.2 " ++
      "9et80.3 9d440.2 9et80.3 9d440.2 9et80.3 9eys0.2 9d6w0.4 9d1c0.5 9d1c0.4 9d1c0.5 9d1c0.4 9d1c0.5 " ++
      "9d1c0.4 9d1c0.5 9d1c0.4 9d1c0.5 9d1c0.4 9d1c0.5 9q000.4 9d1c0.6 8c2s0.7 o73qnj.7;<+05>-5",
    "Asia/Famagusta=8148,10800d,7200,7200,10800d,10800,7200;-p4bqac.2 rvhy2c.1 9cyk0.2 b42s0.1 " ++
      "7nuk0.2 8yas0.1 8zzw0.2 9q2s0.1 9et80.2 9b9g0.1 9cyk0.2 9q2s0.1 8zzw0.2 9d440.1 9cyk0.2 9d440.1 " ++
      "9cyk0.2 9d440.1 9cyk0.2 9d440.1 9px80.2 9d440.1 9cyk0.2 9d440.1 9cyk0.2 9d440.1 9cyk0.2 9d440.1 " ++
      "9cyk0.2 9d440.1 9cyk0.2 9d440.1 9px80.2 9d440.1 9cyk0.2 9d440.1 9cyk0.2 9d440.1 9cyk0.2 9d440.1 " ++
      "9cyk0.2 9d440.1 9cyk0.2 9q2s0.1 9cyk0.2 9d440.1 9cyk0.2 9d440.1 at4c0.3 7x6o0.4 b5uo0.3 7k800.4 " ++
      "b5uo0.3 7k800.4 b5uo0.3 7x6o0.4 asw00.3 7x6o0.4 asw00.3 7x6o0.4 b5uo0.3 7k800.4 b5uo0.3 7k800.4 " ++
      "b5uo0.3 7k800.4 b5uo0.3 7x6o0.4 asw00.3 7x6o0.4 asw00.3 7x6o0.4 b5uo0.3 7k800.4 b5uo0.3 7k800.4 " ++
      "b5uo0.3 7x6o0.4 asw00.3 7x6o0.4 asw00.3 7x6o0.4 asw00.3 7x6o0.4 8h8w0.5 leog0.3 7k800.4 b5uo0.3 " ++
      "7x6o0.4 asw00.3 7x6o0.4 asw00.3 7x6o0.4 b5uo0.3 7k800.4 b5uo0.3 7k800.4 b5uo0.3 7x6o0.4 asw00.3 " ++
      "7x6o0.4 asw00.3 7x6o0.4 asw00.3 7x6o0.4 b5uo0.3 7k800.4 b5uo0.3 7k800.4 b5uo0.3 7x6o0.4 asw00.3 " ++
      "7x6o0.4 asw00.3 7x6o0.4 b5uo0.3 7k800.4 b5uo0.3 7k800.4 b5uo0.3 7k800.4 b5uo0.3 7x6o0.4 asw00.3 " ++
      "7x6o0.4 asw00.3;EET-2EEST,M3.5.0/3,M10.5.0/4",
    "Asia/Gaza=8272,10800d,7200,7200,10800d,10800d,7200,10800d,7200,7200;-1054x1s.3 kp9t1s.1 69xc0.2 " ++
      "2f1c0.1 10q800.2 7rmo0.1 b0ao0.2 7thc0.1 b0ao0.2 8jeo0.1 a8io0.2 8jeo0.1 a8io0.2 5hoig0.4 " ++
      "7el80.3 awo40.4 7v980.3 awqw0.4 7tk40.3 b07w0.4 7tk40.3 ayd80.4 7tk40.3 ayd80.4 7tk40.3 ayd80.4 " ++
      "7tk40.3 b07w0.4 7tk40.3 ayd80.4 7tk40.3 ayd80.4 7ves0.3 awik0.4 1sns0.6 3p6is0.5 51ek0.6 9q2s0.5 " ++
      "6u7w0.6 2kjk40.7 25s00.8 1weyo0.7 5reo0.8 bvs00.5 776k0.6 dbpg0.5 5rbw0.6 bbhg0.5 7rjw0.6 " ++
      "asys0.5 7k580.6 c8tg0.5 6h980.6 ag040.5 7x3w0.6 asys0.5 8a2k0.6 asys0.5 8a2k0.6 ap9g0.5 80t80.6 " ++
      "ap9g0.5 7nuk0.6 b2840.5 80t80.6 66as0.3 4vxc0.4 8n400.9 a2yo0.4 8n400.9 a2yo0.4 8n400.9 asw00.4 " ++
      "9cyk0.3 9q2s0.4 9cyk0.3 9d440.4 9cyk0.3 9d440.4 9cyk0.3 9d440.4 9cyk0.3 9d440.4 8n400.3 a2yo0.4 " ++
      "8ulg0.3 97ek0.4 8y580.3 9ts40.4 8hms0.3 a4qk0.4 7x3w0.3 asys0.4 8a5c0.3 ahs1o.4 71mic.3 bzk5o.4 " ++
      "69uic.3 cg840.4 902o0.3 9q000.4 9cyk0.3 9d440.4 ast80.3 7z440.4 ar1c0.3 7z440.4 b5rw0.3 7kas0.4 " ++
      "b5rw0.3 7kas0.4 b5rw0.3 7vc00.4 aunw0.3 7x9g0.4 asw00.3 7x6o0.4 b4000.3 7nxc0.4 b42s0.3 9d440.4 " ++
      "9cyk0.3 905g0.4 9px80.3 8n6s0.4 a2vw0.3 7x9g0.4 ast80.3 7x9g0.4 b5rw0.3 7kas0.4 b5rw0.3 7kas0.4 " ++
      "b5rw0.3 7x9g0.4 ast80.3 7x9g0.4 ast80.3 7x9g0.4 b5rw0.3 7kas0.4 b5rw0.3 7kas0.4 b5rw0.3 7kas0.4 " ++
      "b5rw0.3 7x9g0.4 afuk0.3 8a840.4 a2vw0.3 8n6s0.4 9cyk0.3 9d440.4 8zzw0.3 9q2s0.4 8a2k0.3 2itg0.4 " ++
      "cvw0.3 7x9g0.4 7k580.3 25us0.4 12t80.3 7x9g0.4 776k0.3 25us0.4 1frw0.3 7x9g0.4 6h980.3 2itg0.4 " ++
      "1sqk0.3 7x9g0.4 64ak0.3 25us0.4 2vmk0.3 7kas0.4 5rbw0.3 25us0.4 38l80.3 7kas0.4 51ek0.3 2itg0.4 " ++
      "3ljw0.3 7x9g0.4 4bh80.3 25us0.4 4bh80.3 7x9g0.4 3ljw0.3 2itg0.4 4ofw0.3 7x9g0.4 38l80.3 25us0.4 " ++
      "5rbw0.3 7kas0.4 2vmk0.3 25us0.4 64ak0.3 7kas0.4 25p80.3 2itg0.4 6h980.3 7x9g0.4 1frw0.3 25us0.4 " ++
      "776k0.3 7x9g0.4 puk0.3 2itg0.4 7k580.3 7x9g0.4 cvw0.3 2itg0.4 7x3w0.3 a31g0.4 8zzw0.3 9d440.4 " ++
      "9cyk0.3 8n6s0.4 a2vw0.3 8a840.4 afuk0.3 7x9g0.4 ast80.3 7x9g0.4 b5rw0.3 7kas0.4 b5rw0.3 7kas0.4 " ++
      "b5rw0.3 7kas0.4 b5rw0.3 7x9g0.4 ast80.3 7x9g0.4 ast80.3 7x9g0.4 b5rw0.3 7kas0.4 b5rw0.3 7kas0.4 " ++
      "ast80.3 8a840.4 a2vw0.3 8n6s0.4 9px80.3 905g0.4 8zzw0.3 9q2s0.4 8n180.3 25us0.4 cvw0.3 7kas0.4 " ++
      "8a2k0.3 25us0.4 puk0.3 7kas0.4 7k580.3 2itg0.4 12t80.3 7x9g0.4 6u7w0.3 25us0.4 1sqk0.3 7x9g0.4 " ++
      "64ak0.3 2itg0.4 25p80.3 7x9g0.4 5rbw0.3 2itg0.4 2vmk0.3 7kas0.4 5ed80.3 25us0.4 3ljw0.3 7kas0.4 " ++
      "4ofw0.3 2itg0.4 3yik0.3 7x9g0.4 3yik0.3 25us0.4 4ofw0.3 7x9g0.4 3ljw0.3 25us0.4 51ek0.3 7x9g0.4 " ++
      "2vmk0.3 2itg0.4 5ed80.3 7x9g0.4 2inw0.3 25us0.4 6h980.3 7kas0.4 1sqk0.3 2itg0.4 6u7w0.3 7kas0.4 " ++
      "1frw0.3 2itg0.4 776k0.3 7x9g0.4 puk0.3 25us0.4 7x3w0.3;EET-2EEST,M3.4.4/50,M10.4.4/50",
    "Asia/Hebron=8423,10800d,7200,7200,10800d,10800d,7200,10800d,7200,7200;-1054x5z.3 kp9t5z.1 " ++
      "69xc0.2 2f1c0.1 10q800.2 7rmo0.1 b0ao0.2 7thc0.1 b0ao0.2 8jeo0.1 a8io0.2 8jeo0.1 a8io0.2 5hoig0.4 " ++
      "7el80.3 awo40.4 7v980.3 awqw0.4 7tk40.3 b07w0.4 7tk40.3 ayd80.4 7tk40.3 ayd80.4 7tk40.3 ayd80.4 " ++
      "7tk40.3 b07w0.4 7tk40.3 ayd80.4 7tk40.3 ayd80.4 7ves0.3 awik0.4 1sns0.6 3p6is0.5 51ek0.6 9q2s0.5 " ++
      "6u7w0.6 2kjk40.7 25s00.8 1weyo0.7 5reo0.8 bvs00.5 776k0.6 dbpg0.5 5rbw0.6 bbhg0.5 7rjw0.6 " ++
      "asys0.5 7k580.6 c8tg0.5 6h980.6 ag040.5 7x3w0.6 asys0.5 8a2k0.6 asys0.5 8a2k0.6 ap9g0.5 80t80.6 " ++
      "ap9g0.5 7nuk0.6 b2840.5 80t80.6 66as0.3 4vxc0.4 8n400.9 a2yo0.4 8n400.9 a2yo0.4 8n400.9 asw00.4 " ++
      "9cyk0.3 9q2s0.4 9cyk0.3 9d440.4 9cyk0.3 9d440.4 9cyk0.3 9d440.4 9cyk0.3 9d440.4 8n400.3 a2yo0.4 " ++
      "8ulg0.3 97ek0.4 8y580.3 9ts40.4 8hms0.3 a4qk0.4 82nw0.3 anes0.4 8a5c0.3 afxc0.4 73h80.3 bzk5o.4 " ++
      "69uic.3 1hs40.4 1lbw0.3 9d440.4 902o0.3 9q000.4 9cyk0.3 9d440.4 ast80.3 7z440.4 ar1c0.3 7z440.4 " ++
      "b5rw0.3 7kas0.4 b5rw0.3 7kas0.4 b5rw0.3 7vc00.4 aunw0.3 7x9g0.4 asw00.3 7x6o0.4 b4000.3 7nxc0.4 " ++
      "b42s0.3 9d440.4 9cyk0.3 905g0.4 9px80.3 8n6s0.4 a2vw0.3 7x9g0.4 ast80.3 7x9g0.4 b5rw0.3 7kas0.4 " ++
      "b5rw0.3 7kas0.4 b5rw0.3 7x9g0.4 ast80.3 7x9g0.4 ast80.3 7x9g0.4 b5rw0.3 7kas0.4 b5rw0.3 7kas0.4 " ++
      "b5rw0.3 7kas0.4 b5rw0.3 7x9g0.4 afuk0.3 8a840.4 a2vw0.3 8n6s0.4 9cyk0.3 9d440.4 8zzw0.3 9q2s0.4 " ++
      "8a2k0.3 2itg0.4 cvw0.3 7x9g0.4 7k580.3 25us0.4 12t80.3 7x9g0.4 776k0.3 25us0.4 1frw0.3 7x9g0.4 " ++
      "6h980.3 2itg0.4 1sqk0.3 7x9g0.4 64ak0.3 25us0.4 2vmk0.3 7kas0.4 5rbw0.3 25us0.4 38l80.3 7kas0.4 " ++
      "51ek0.3 2itg0.4 3ljw0.3 7x9g0.4 4bh80.3 25us0.4 4bh80.3 7x9g0.4 3ljw0.3 2itg0.4 4ofw0.3 7x9g0.4 " ++
      "38l80.3 25us0.4 5rbw0.3 7kas0.4 2vmk0.3 25us0.4 64ak0.3 7kas0.4 25p80.3 2itg0.4 6h980.3 7x9g0.4 " ++
      "1frw0.3 25us0.4 776k0.3 7x9g0.4 puk0.3 2itg0.4 7k580.3 7x9g0.4 cvw0.3 2itg0.4 7x3w0.3 a31g0.4 " ++
      "8zzw0.3 9d440.4 9cyk0.3 8n6s0.4 a2vw0.3 8a840.4 afuk0.3 7x9g0.4 ast80.3 7x9g0.4 b5rw0.3 7kas0.4 " ++
      "b5rw0.3 7kas0.4 b5rw0.3 7kas0.4 b5rw0.3 7x9g0.4 ast80.3 7x9g0.4 ast80.3 7x9g0.4 b5rw0.3 7kas0.4 " ++
      "b5rw0.3 7kas0.4 ast80.3 8a840.4 a2vw0.3 8n6s0.4 9px80.3 905g0.4 8zzw0.3 9q2s0.4 8n180.3 25us0.4 " ++
      "cvw0.3 7kas0.4 8a2k0.3 25us0.4 puk0.3 7kas0.4 7k580.3 2itg0.4 12t80.3 7x9g0.4 6u7w0.3 25us0.4 " ++
      "1sqk0.3 7x9g0.4 64ak0.3 2itg0.4 25p80.3 7x9g0.4 5rbw0.3 2itg0.4 2vmk0.3 7kas0.4 5ed80.3 25us0.4 " ++
      "3ljw0.3 7kas0.4 4ofw0.3 2itg0.4 3yik0.3 7x9g0.4 3yik0.3 25us0.4 4ofw0.3 7x9g0.4 3ljw0.3 25us0.4 " ++
      "51ek0.3 7x9g0.4 2vmk0.3 2itg0.4 5ed80.3 7x9g0.4 2inw0.3 25us0.4 6h980.3 7kas0.4 1sqk0.3 2itg0.4 " ++
      "6u7w0.3 7kas0.4 1frw0.3 2itg0.4 776k0.3 7x9g0.4 puk0.3 25us0.4 7x3w0.3;EET-2EEST,M3.4.4/50,M10.4.4/50",
    "Asia/Ho_Chi_Minh Asia/Saigon=25590,25590,25200,28800,32400,25200;-x5692u.1 2isio0.2 gj25iu.3 " ++
      "15ct80.4 8so00.2 tmtk0.3 4azmo0.2 2cm7w0.3 8285c0.2 wo9b7j.2;<+07>-7",
    "Asia/Hong_Kong Hongkong=27402,28800,32400d,30600d,32400,28800,32400d,28800;-y0i0s0.1 j44dk0.2 " ++
      "5k000.3 4d4y0.4 2195i0.7 7x3w0.2 bj320.5 6uao0.6 bvs00.5 7x6o0.6 9d1c0.5 7x6o0.2 asw00.5 7x6o0.2 " ++
      "asw00.5 7x6o0.2 asw00.5 8a5c0.2 asw00.5 7x6o0.2 ast80.7 77c40.2 biqk0.7 77c40.2 bvp80.7 6udg0.2 " ++
      "bvp80.7 77c40.2 biqk0.7 77c40.2 biqk0.7 77c40.2 biqk0.7 77c40.2 bvp80.7 6udg0.2 bvp80.7 6udg0.2 " ++
      "bvp80.7 77c40.2 biqk0.7 77c40.2 biqk0.7 8n6s0.2 9cyk0.7 9d440.2 9cyk0.7 9d440.2 9px80.7 9d440.2 " ++
      "9cyk0.7 9d440.2 9cyk0.7 9d440.2 9cyk0.7 9d440.2 9cyk0.7 9d440.2 9px80.7 9d440.2 9cyk0.7 3lpg0.2 " ++
      "f4d80.7 9d440.2 9cyk0.7 9d440.2 9cyk0.7 1c9440.2 8a2k0.7;HKT-8",
    "Asia/Hovd=21996,21600,28800d,25200;-xmcoz0.1 11sncb0.3 2qk2k0.2 9et80.3 9eys0.2 9cyk0.3 9d440.2 " ++
      "9cyk0.3 9d440.2 9cyk0.3 9d440.2 9cyk0.3 9d440.2 9cyk0.3 9d440.2 9cyk0.3 9d440.2 9px80.3 9d440.2 " ++
      "9cyk0.3 9d440.2 9cyk0.3 9d440.2 9cyk0.3 9d440.2 9cyk0.3 9d440.2 9cyk0.3 9q2s0.2 9cyk0.3 9d440.2 " ++
      "9cyk0.3 9d440.2 9cyk0.3 1ckdo0.2 7x3w0.3 9d440.2 9cyk0.3 9d440.2 9cyk0.3 9d440.2 9cyk0.3 9d440.2 " ++
      "9cyk0.3 9d440.2 9px80.3 4fio40.2 9ct00.3 9d9o0.2 9ct00.3 b4l8jj.3;<+07>-7",
    "Asia/Irkutsk=25025,25025,25200,32400d,28800,28800,32400d,28800d,25200,32400,32400d,28800;-1ayylz5.1 " ++
      "kwq5c0.2 5fh175.4 qi27w0.3 9et80.4 9d440.3 9et80.4 9d440.3 9et80.4 9eys0.3 9d6w0.5 9d1c0.6 " ++
      "9d1c0.5 9d1c0.6 9d1c0.5 9d1c0.6 9d1c0.5 9d1c0.6 9d1c0.5 9d1c0.6 9d1c0.5 9d1c0.6 9q000.5 9d1c0.7 " ++
      "9d440.8 5reo0.5 3ljw0.6 9d1c0.5 9d1c0.6 9d1c0.5 9d1c0.6 9d1c0.5 9d1c0.6 9d1c0.5 9q000.6 asw00.5 " ++
      "7x6o0.6 asw00.5 7x6o0.6 asw00.5 7x6o0.6 b5uo0.5 7k800.6 b5uo0.5 7k800.6 b5uo0.5 7x6o0.6 asw00.5 " ++
      "7x6o0.6 asw00.5 7x6o0.6 b5uo0.5 7k800.6 b5uo0.5 7k800.6 b5uo0.5 7k800.6 b5uo0.5 7x6o0.6 asw00.5 " ++
      "7x6o0.6 asw00.5 7x6o0.6 b5uo0.5 7k800.9 1vbzw0.5 c4jlrj.5;<+08>-8",
    "Asia/Istanbul Europe/Istanbul Turkey=6952,7016,10800d,7200,10800,14400d,10800d,7200,10800d,7200,10800;-1ayy814.1 " ++
      "g1oam8.3 2wvx6w.2 7v980.3 1tjc40.2 aunw0.3 88dg0.2 9et80.3 8yas0.2 a2vw0.3 tzpg0.2 79180.3 " ++
      "awo40.2 7v980.3 7p4040.2 4zjw0.3 2vs40.2 f4d80.3 9vms0.2 1u5ek0.3 c5440.2 69uk0.3 acas0.2 " ++
      "8n180.3 a31g0.2 8n180.3 9q2s0.2 8zzw0.3 a31g0.2 8zzw0.3 a31g0.2 8n180.3 5md9g0.2 o9zw0.3 a6qs0.2 " ++
      "75bw0.3 4iwyw0.2 7x6o0.3 7kas0.2 b5rw0.3 75hg0.2 bkl80.3 77c40.2 biqk0.3 7x9g0.2 a2vw0.3 8n6s0.2 " ++
      "4iqc0.4 2nkw80.5 38l80.4 kdes0.3 8qtc0.6 8a5c0.7 9ew00.6 9d1c0.7 9d1c0.6 9d1c0.7 9d1c0.6 9d1c0.7 " ++
      "9d1c0.6 9d1c0.7 9d1c0.6 9q000.7 9d1c0.6 9d1c0.7 9d1c0.6 9d1c0.7 9d1c0.6 9d1c0.7 902o0.6 9q000.7 " ++
      "9d1c0.6 9d1c0.7 9q000.6 asw00.7 7x6o0.6 asw00.7 7x6o0.6 asw00.7 7x6o0.6 b5uo0.7 7k800.6 b5uo0.7 " ++
      "7k800.6 b5uo0.7 7x6o0.6 asw00.7 7x6o0.6 asw00.7 7x6o0.6 b5uo0.7 7k800.6 b5uo0.7 7k800.6 b5uo0.7 " ++
      "7kdk0.8 b5uo0.9 7x6o0.8 asw00.9 7x6o0.8 asw00.9 7x6o0.8 b5uo0.9 7m2o0.8 b4000.9 7k800.8 b5uo0.9 " ++
      "7x6o0.8 asw00.9 7z1c0.8 ar1c0.9 7x6o0.8 bitc0.9 779c0.8 8fe80.4 b5gbzj.4;<+03>-3",
    "Asia/Jakarta=25632,25632,26400,27000,32400,28800,25200;-1hftyg0.1 tfikqo.2 4lzxc0.3 4wdzjc.4 " ++
      "1tu960.3 1cx860.5 11jta0.3 74uc20.6;WIB-7",
    "Asia/Jayapura=33768,32400,34200,32400;-jebm20.1 66bqe0.2 a37vy0.3;WIT-9",
    "Asia/Jerusalem Asia/Tel_Aviv Israel=8454,8440,10800d,7200,14400d,10800d,7200,10800d,7200;-1ayy96u.1 " ++
      "jtxuoe.6 bp5aig.2 69xc0.3 2f1c0.2 10q800.3 7rmo0.2 b0ao0.3 7thc0.2 b0ao0.3 8jeo0.2 a8io0.3 " ++
      "8jeo0.2 a8io0.3 t9pc0.4 571c0.2 34yo0.3 9b6o0.2 9gqo0.3 8jeo0.2 7thc0.3 a6o00.2 bitc0.3 8a5c0.2 " ++
      "9d1c0.3 902o0.2 7x6o0.3 e1k00.2 4oio0.3 e1k00.2 4oio0.3 dolc0.2 64dc0.3 asw00.2 7k800.3 8rfeg0.5 " ++
      "51ek0.6 9q2s0.5 6u7w0.6 2kjk40.7 25s00.8 1weyo0.7 5reo0.8 bvs00.5 776k0.6 dbpg0.5 5rbw0.6 " ++
      "bbhg0.5 7rjw0.6 asys0.5 7k580.6 c8tg0.5 6h980.6 ag040.5 7x3w0.6 asys0.5 8a2k0.6 asys0.5 8a2k0.6 " ++
      "ap9g0.5 80t80.6 ap9g0.5 7nuk0.6 b2840.5 80t80.6 9zc40.5 9iik0.6 9kis0.5 93p80.6 9mdg0.5 8qqk0.6 " ++
      "apf00.5 7x3w0.6 biw40.5 8zx40.6 9io40.5 8n180.6 9kis0.5 9vh80.6 8ulg0.5 9px80.6 9mdg0.5 8n180.6 " ++
      "9tuw0.5 9tmk0.6 8wg40.5 9gnw0.6 99es0.5 8qqk0.6 9zc40.5 9tmk0.6 8wg40.5 9gnw0.6 99es0.5 8qqk0.6 " ++
      "acas0.5 9gnw0.6 99es0.5 93p80.6 9mdg0.5 awik0.6 7tk40.5 awik0.6 7tk40.5 awik0.6 7tk40.5 b9h80.6 " ++
      "7glg0.5 b9h80.6 7glg0.5 b9h80.6 7tk40.5 awik0.6 7tk40.5 awik0.6 7tk40.5 b9h80.6 7glg0.5 b9h80.6 " ++
      "7glg0.5 b9h80.6 7tk40.5 awik0.6 7tk40.5 awik0.6 7tk40.5 awik0.6 7tk40.5 b9h80.6 7glg0.5 b9h80.6 " ++
      "7glg0.5 b9h80.6 7tk40.5 awik0.6 7tk40.5 awik0.6 7tk40.5 b9h80.6 7glg0.5 b9h80.6 7glg0.5 b9h80.6 " ++
      "7glg0.5 b9h80.6 7tk40.5 awik0.6 7tk40.5 awik0.6;IST-2IDT,M3.4.4/26,M10.5.0",
    "Asia/Kabul=16608,14400,16200;-15r1m5c.1 spc1pc.2 1ck9lfj.2;<+0430>-4:30",
    "Asia/Kamchatka=38076,39600,46800d,43200,43200,46800d,43200d,39600,43200;-olrupo.1 3z045o.3 " ++
      "qi27w0.2 9et80.3 9d440.2 9et80.3 9d440.2 9et80.3 9eys0.2 9d6w0.4 9d1c0.5 9d1c0.4 9d1c0.5 9d1c0.4 " ++
      "9d1c0.5 9d1c0.4 9d1c0.5 9d1c0.4 9d1c0.5 9d1c0.4 9d1c0.5 9q000.4 9d1c0.6 9d440.7 5reo0.4 3ljw0.5 " ++
      "9d1c0.4 9d1c0.5 9d1c0.4 9d1c0.5 9d1c0.4 9d1c0.5 9d1c0.4 9q000.5 asw00.4 7x6o0.5 asw00.4 7x6o0.5 " ++
      "asw00.4 7x6o0.5 b5uo0.4 7k800.5 b5uo0.4 7k800.5 b5uo0.4 7x6o0.5 asw00.4 7x6o0.5 asw00.4 7x6o0.5 " ++
      "b5uo0.4 7k800.5 b5uo0.4 7k800.5 b5uo0.4 7k800.5 b5uo0.4 7x6o0.5 asw00.4 7x6o0.5 asw00.4 7x6o0.6 " ++
      "b5xg0.7 7k800.4 dzvtzj.4;<+12>-12",
    "Asia/Karachi=16092,19800,23400d,18000,21600d,18000;-wvpb30.1 im3zt0.2 1mn180.1 33xpg0.3 a63o20.5 " ++
      "g72qo0.4 9cyk0.5 2y85g0.4 7v980.5 8hms0.4 aaak0.5;PKT-5",
    "Asia/Kashgar Asia/Urumqi=21020,21600;-lx5pjw.1 1lfpqjf.1;<+06>-6",
    "Asia/Kathmandu Asia/Katmandu=20476,19800,20700;-q3gt4s.1 yg2lus.2 r5y89j.2;<+0545>-5:45",
    "Asia/Khandyga=32533,28800,36000d,32400,32400,36000d,32400d,28800,39600d,36000,36000,39600,32400;-q4cjrp.1 " ++
      "5hl1jp.3 qi27w0.2 9et80.3 9d440.2 9et80.3 9d440.2 9et80.3 9eys0.2 9d6w0.4 9d1c0.5 9d1c0.4 " ++
      "9d1c0.5 9d1c0.4 9d1c0.5 9d1c0.4 9d1c0.5 9d1c0.4 9d1c0.5 9d1c0.4 9d1c0.5 9q000.4 9d1c0.6 9d440.7 " ++
      "5reo0.4 3ljw0.5 9d1c0.4 9d1c0.5 9d1c0.4 9d1c0.5 9d1c0.4 9d1c0.5 9d1c0.4 9q000.5 asw00.4 7x6o0.5 " ++
      "asw00.4 7x6o0.5 asw00.4 7x6o0.5 b5uo0.4 7k800.5 b5uo0.4 7k800.5 b5uo0.4 7x6o0.5 asw00.4 7x6o0.5 " ++
      "asw00.4 3fx40.10 4h6s0.8 b5uo0.9 7k800.8 b5uo0.9 7k800.8 b5uo0.9 7k800.8 b5uo0.9 7x6o0.8 asw00.9 " ++
      "7x6o0.8 asw00.9 7x6o0.8 b5uo0.9 7k800.11 8ql00.9 1mlho0.4 c4jojj.4;<+09>-9",
    "Asia/Krasnoyarsk=22286,21600,28800d,25200,25200,28800d,25200d,21600,28800,28800d,25200;-q37l72.1 " ++
      "5gg8j2.3 qi27w0.2 9et80.3 9d440.2 9et80.3 9d440.2 9et80.3 9eys0.2 9d6w0.4 9d1c0.5 9d1c0.4 " ++
      "9d1c0.5 9d1c0.4 9d1c0.5 9d1c0.4 9d1c0.5 9d1c0.4 9d1c0.5 9d1c0.4 9d1c0.5 9q000.4 9d1c0.6 9d440.7 " ++
      "5reo0.4 3ljw0.5 9d1c0.4 9d1c0.5 9d1c0.4 9d1c0.5 9d1c0.4 9d1c0.5 9d1c0.4 9q000.5 asw00.4 7x6o0.5 " ++
      "asw00.4 7x6o0.5 asw00.4 7x6o0.5 b5uo0.4 7k800.5 b5uo0.4 7k800.5 b5uo0.4 7x6o0.5 asw00.4 7x6o0.5 " ++
      "asw00.4 7x6o0.5 b5uo0.4 7k800.5 b5uo0.4 7k800.5 b5uo0.4 7k800.5 b5uo0.4 7x6o0.5 asw00.4 7x6o0.5 " ++
      "asw00.4 7x6o0.5 b5uo0.4 7k800.8 1vbzw0.4 c4jizj.4;<+07>-7",
    "Asia/Kuala_Lumpur=24406,24925,25200,26400d,26400,27000,32400,28800;-100ew5y.1 2ax69l.2 eeb94d.3 " ++
      "1kbr2o.4 2yhc00.5 8n3jc.6 1v2p60.5 iy3ms0.7 t93z7j.7;<+08>-8",
    "Asia/Kuching=26480,27000,30000d,28800,32400,28800;-mvof3k.1 3khwxk.3 1epvy0.2 4ohqo.3 e5a9c.2 " ++
      "4ohqo.3 e3flc.2 4ohqo.3 e3flc.2 4ohqo.3 e3flc.2 4ohqo.3 e5a9c.2 4ohqo.3 e3flc.2 4ohqo.3 3ajlc.4 " ++
      "1v2qk0.3 1c77lzj.3;<+08>-8",
    "Asia/Kuwait=11516,10800;-afs0vw.1 19yc1vf.1;<+03>-3",
    "Asia/Macao Asia/Macau=27250,28800,36000d,32400,32400d,28800,32400d;-y0i2cy.1 jdvyoy.3 6onw0.2 " ++
      "ac580.3 8fs40.2 7v980.3 11luw0.1 awlc0.4 7vc00.5 ac800.4 bko00.5 7x6o0.4 9d1c0.5 7vc00.4 asw00.5 " ++
      "7x6o0.4 asw00.5 7x6o0.4 auqo0.5 88ao0.4 asw00.5 7x6o0.4 asw00.5 779c0.4 bitc0.5 779c0.4 bvs00.5 " ++
      "6uao0.4 bw1q0.1 77c40.6 biqk0.1 77c40.6 biqk0.1 77c40.6 biqk0.1 77c40.6 bvp80.1 6udg0.6 bvp80.1 " ++
      "6udg0.6 bvp80.1 77c40.6 biqk0.1 77c40.6 biqk0.1 8n6s0.6 9cvs0.1 9d6w0.6 9cvs0.1 9d6w0.6 9px80.1 " ++
      "9d440.6 9cyk0.1 9d440.6 9cyk0.1 9d440.6 9cyk0.1 9d440.6 9cyk0.1 9d440.6 9px80.1 9d440.6 9cyk0.1 " ++
      "3lpg0.6 f4d80.1 9d440.6 9cyk0.1 9d440.6 9cyk0.1 1c9440.6 8a2k0.1;CST-8",
    "Asia/Magadan=36192,36000,43200d,39600,39600,43200d,39600d,36000,43200,43200d,39600;-nu1nxc.1 " ++
      "37a05c.3 qi27w0.2 9et80.3 9d440.2 9et80.3 9d440.2 9et80.3 9eys0.2 9d6w0.4 9d1c0.5 9d1c0.4 " ++
      "9d1c0.5 9d1c0.4 9d1c0.5 9d1c0.4 9d1c0.5 9d1c0.4 9d1c0.5 9d1c0.4 9d1c0.5 9q000.4 9d1c0.6 9d440.7 " ++
      "5reo0.4 3ljw0.5 9d1c0.4 9d1c0.5 9d1c0.4 9d1c0.5 9d1c0.4 9d1c0.5 9d1c0.4 9q000.5 asw00.4 7x6o0.5 " ++
      "asw00.4 7x6o0.5 asw00.4 7x6o0.5 b5uo0.4 7k800.5 b5uo0.4 7k800.5 b5uo0.4 7x6o0.5 asw00.4 7x6o0.5 " ++
      "asw00.4 7x6o0.5 b5uo0.4 7k800.5 b5uo0.4 7k800.5 b5uo0.4 7k800.5 b5uo0.4 7x6o0.5 asw00.4 7x6o0.5 " ++
      "asw00.4 7x6o0.5 b5uo0.4 7k800.8 1vbzw0.7 s39k0.4 bcgkjj.4;<+11>-11",
    "Asia/Makassar Asia/Ujung_Pandang=28656,28656,28800,32400,28800;-q3gzg0.1 6p5hc0.2 4u87w0.3 " ++
      "1w02k0.4;WITA-8",
    "Asia/Manila=-57368,29032,32400d,28800,28800,32400,28800;-1t8ix2g.1 sjc9ig.4 je0pc0.2 3wnw0.3 " ++
      "2kc5g0.2 2zbw0.5 1leo00.2 dzpc0.3 4d3ms0.2 2rx80.3 bwlpg0.2 95jw0.3 6lv1g0.2 3jp80.3;PST-8",
    "Asia/Muscat=14064,14400;-q3go6o.1 1pm0p67.1;<+04>-4",
    "Asia/Nicosia Europe/Nicosia=8008,10800d,7200,7200,10800d;-p4bq6g.2 rvhxyg.1 9cyk0.2 b42s0.1 " ++
      "7nuk0.2 8yas0.1 8zzw0.2 9q2s0.1 9et80.2 9b9g0.1 9cyk0.2 9q2s0.1 8zzw0.2 9d440.1 9cyk0.2 9d440.1 " ++
      "9cyk0.2 9d440.1 9cyk0.2 9d440.1 9px80.2 9d440.1 9cyk0.2 9d440.1 9cyk0.2 9d440.1 9cyk0.2 9d440.1 " ++
      "9cyk0.2 9d440.1 9cyk0.2 9d440.1 9px80.2 9d440.1 9cyk0.2 9d440.1 9cyk0.2 9d440.1 9cyk0.2 9d440.1 " ++
      "9cyk0.2 9d440.1 9cyk0.2 9q2s0.1 9cyk0.2 9d440.1 9cyk0.2 9d440.1 at4c0.3 7x6o0.4 b5uo0.3 7k800.4 " ++
      "b5uo0.3 7k800.4 b5uo0.3 7x6o0.4 asw00.3 7x6o0.4 asw00.3 7x6o0.4 b5uo0.3 7k800.4 b5uo0.3 7k800.4 " ++
      "b5uo0.3 7k800.4 b5uo0.3 7x6o0.4 asw00.3 7x6o0.4 asw00.3 7x6o0.4 b5uo0.3 7k800.4 b5uo0.3 7k800.4 " ++
      "b5uo0.3 7x6o0.4 asw00.3 7x6o0.4 asw00.3 7x6o0.4 asw00.3 7x6o0.4 b5uo0.3 7k800.4 b5uo0.3 7k800.4 " ++
      "b5uo0.3 7x6o0.4 asw00.3 7x6o0.4 asw00.3 7x6o0.4 b5uo0.3 7k800.4 b5uo0.3 7k800.4 b5uo0.3 7x6o0.4 " ++
      "asw00.3 7x6o0.4 asw00.3 7x6o0.4 asw00.3 7x6o0.4 b5uo0.3 7k800.4 b5uo0.3 7k800.4 b5uo0.3 7x6o0.4 " ++
      "asw00.3 7x6o0.4 asw00.3 7x6o0.4 b5uo0.3 7k800.4 b5uo0.3 7k800.4 b5uo0.3 7k800.4 b5uo0.3 7x6o0.4 " ++
      "asw00.3 7x6o0.4 asw00.3;EET-2EEST,M3.5.0/3,M10.5.0/4",
    "Asia/Novokuznetsk=20928,21600,28800d,25200,25200,28800d,25200d,21600,25200;-nu36tc.1 37bu5c.3 " ++
      "qi27w0.2 9et80.3 9d440.2 9et80.3 9d440.2 9et80.3 9eys0.2 9d6w0.4 9d1c0.5 9d1c0.4 9d1c0.5 9d1c0.4 " ++
      "9d1c0.5 9d1c0.4 9d1c0.5 9d1c0.4 9d1c0.5 9d1c0.4 9d1c0.5 9q000.4 9d1c0.6 9d440.7 5reo0.4 3ljw0.5 " ++
      "9d1c0.4 9d1c0.5 9d1c0.4 9d1c0.5 9d1c0.4 9d1c0.5 9d1c0.4 9q000.5 asw00.4 7x6o0.5 asw00.4 7x6o0.5 " ++
      "asw00.4 7x6o0.5 b5uo0.4 7k800.5 b5uo0.4 7k800.5 b5uo0.4 7x6o0.5 asw00.4 7x6o0.5 asw00.4 7x6o0.5 " ++
      "b5uo0.4 7k800.5 b5uo0.4 7k800.5 b5uo0.4 7k800.5 b5uo0.4 7x6o0.5 asw00.4 7x6o0.5 asw00.4 7x6o0.6 " ++
      "b5xg0.7 7k800.4 dzvg3j.4;<+07>-7",
    "Asia/Novosibirsk=19900,21600,28800d,25200,25200,28800d,25200d,21600,25200d,25200;-q4do0s.1 " ++
      "5hmbcs.3 qi27w0.2 9et80.3 9d440.2 9et80.3 9d440.2 9et80.3 9eys0.2 9d6w0.4 9d1c0.5 9d1c0.4 " ++
      "9d1c0.5 9d1c0.4 9d1c0.5 9d1c0.4 9d1c0.5 9d1c0.4 9d1c0.5 9d1c0.4 9d1c0.5 9q000.4 9d1c0.6 9d440.7 " ++
      "5reo0.4 3ljw0.5 9d1c0.4 9d1c0.5 2vh00.8 6hn40.7 9d1c0.6 9d1c0.7 9d1c0.6 9d1c0.7 9q000.6 asw00.7 " ++
      "7x6o0.6 asw00.7 7x6o0.6 asw00.7 7x6o0.6 b5uo0.7 7k800.6 b5uo0.7 7k800.6 b5uo0.7 7x6o0.6 asw00.7 " ++
      "7x6o0.6 asw00.7 7x6o0.6 b5uo0.7 7k800.6 b5uo0.7 7k800.6 b5uo0.7 7k800.6 b5uo0.7 7x6o0.6 asw00.7 " ++
      "7x6o0.6 asw00.7 7x6o0.6 b5uo0.7 7k800.4 1vbzw0.7 wrpg0.4 b7rqrj.4;<+07>-7",
    "Asia/Omsk=17610,18000,25200d,21600,21600,25200d,21600d,18000,25200,25200d,21600;-q5xmx6.1 " ++
      "5j6d16.3 qi27w0.2 9et80.3 9d440.2 9et80.3 9d440.2 9et80.3 9eys0.2 9d6w0.4 9d1c0.5 9d1c0.4 " ++
      "9d1c0.5 9d1c0.4 9d1c0.5 9d1c0.4 9d1c0.5 9d1c0.4 9d1c0.5 9d1c0.4 9d1c0.5 9q000.4 9d1c0.6 9d440.7 " ++
      "5reo0.4 3ljw0.5 9d1c0.4 9d1c0.5 9d1c0.4 9d1c0.5 9d1c0.4 9d1c0.5 9d1c0.4 9q000.5 asw00.4 7x6o0.5 " ++
      "asw00.4 7x6o0.5 asw00.4 7x6o0.5 b5uo0.4 7k800.5 b5uo0.4 7k800.5 b5uo0.4 7x6o0.5 asw00.4 7x6o0.5 " ++
      "asw00.4 7x6o0.5 b5uo0.4 7k800.5 b5uo0.4 7k800.5 b5uo0.4 7k800.5 b5uo0.4 7x6o0.5 asw00.4 7x6o0.5 " ++
      "asw00.4 7x6o0.5 b5uo0.4 7k800.8 1vbzw0.4 c4jg7j.4;<+06>-6",
    "Asia/Oral=12324,10800,18000,21600d,21600,18000,21600d,18000d,14400,18000;-nu15ic.1 37a16c.2 " ++
      "qi2540.3 9et80.4 9d1c0.3 9ew00.2 9d440.3 9et80.2 9eys0.3 9d6w0.5 9d1c0.6 9d1c0.5 9d1c0.6 9d1c0.5 " ++
      "9d1c0.6 9d1c0.5 9d1c0.6 9d1c0.5 9d1c0.7 9d440.8 9d1c0.7 9q000.8 9d1c0.7 9d1c0.8 5reo0.5 3ljw0.7 " ++
      "9d440.8 9d1c0.7 9d1c0.8 9d1c0.7 9d1c0.8 9d1c0.7 9d1c0.8 9q000.7 asw00.8 7x6o0.7 asw00.8 7x6o0.7 " ++
      "asw00.8 7x6o0.7 b5uo0.8 7k800.7 b5uo0.8 7k800.7 b5uo0.8 7x6o0.7 asw00.8 7x6o0.7 asw00.8 7x6o0.7 " ++
      "b5uo0.5 hc4x7j.5;<+05>-5",
    "Asia/Phnom_Penh=25180,25590,25200,28800,32400,25200;-x568rg.1 2isicm.2 gj25iu.3 15ct80.4 8so00.2 " ++
      "1c7q4nj.2;<+07>-7",
    "Asia/Pontianak=26240,26240,27000,32400,28800,28800,25200;-w6piww.1 cse2o0.2 4tnu2w.3 1wkei0.2 " ++
      "1cx860.4 11jta0.2 74uc20.5 cixam0.6;WIB-7",
    "Asia/Pyongyang=30180,30600,32400,32400;-w895yc.1 1yh10c.2 hk5da0.3 10ipmo0.1 1f4qo0.3;KST-9",
    "Asia/Qatar=12368,14400,10800;-q3gmvk.1 rctnrk.2 y9703j.2;<+03>-3",
    "Asia/Qostanay=15268,14400,18000,21600d,21600,18000,21600d,18000d,14400,21600,21600d,18000;-nu17s4.1 " ++
      "37a0o4.2 qi27w0.3 9et80.4 9d1c0.3 9ew00.2 9d440.3 9et80.2 9eys0.3 9d6w0.5 9d1c0.6 9d1c0.5 " ++
      "9d1c0.6 9d1c0.5 9d1c0.6 9d1c0.5 9d1c0.6 9d1c0.5 9d1c0.6 9d1c0.5 9d1c0.6 9q000.5 9d1c0.7 9d440.8 " ++
      "5reo0.5 3ljw0.6 9d1c0.5 9d1c0.6 9d1c0.5 9d1c0.6 9d1c0.5 9d1c0.6 9d1c0.5 9q000.6 asw00.5 7x6o0.6 " ++
      "asw00.5 7x6o0.6 asw00.5 7x6o0.6 b5uo0.5 7k800.6 b5uo0.5 7k800.6 b5uo0.5 7x6o0.6 asw00.5 7x6o0.6 " ++
      "asw00.5 7x6o0.6 b5uo0.9 a37p00.2 78xazj.2;<+05>-5",
    "Asia/Qyzylorda=15712,14400,18000,21600d,21600,18000,21600d,18000d,21600,21600d,18000;-nu184g.1 " ++
      "37a10g.2 qi27w0.3 9et80.4 9d1c0.3 9ew00.2 9d440.3 9et80.2 9eys0.3 9d6w0.5 9d1c0.6 9d1c0.5 " ++
      "9d1c0.6 9d1c0.5 9d1c0.6 9d1c0.5 9d1c0.6 9d1c0.5 9d1c0.6 9d1c0.5 9d1c0.6 9q000.5 9d1c0.7 9d440.5 " ++
      "5rbw0.8 3ljw0.6 9d440.5 9d1c0.6 9d1c0.5 9d1c0.6 9d1c0.5 9d1c0.6 9d1c0.5 9q000.6 asw00.5 7x6o0.6 " ++
      "asw00.5 7x6o0.6 asw00.5 7x6o0.6 b5uo0.5 7k800.6 b5uo0.5 7k800.6 b5uo0.5 7x6o0.6 asw00.5 7x6o0.6 " ++
      "asw00.5 7x6o0.6 b5uo0.8 7dmqc0.2 9yi9nj.2;<+05>-5",
    "Asia/Rangoon Asia/Yangon=23087,23087,23400,32400,23400;-1ayykhb.1 kvhpc0.2 bnjp3b.3 1kh520.2 " ++
      "1ce01zj.2;<+0630>-6:30",
    "Asia/Riyadh=11212,10800;-bwgbbg.1 1bf0caz.1;<+03>-3",
    "Asia/Sakhalin=34248,32400,43200d,39600,39600,43200d,39600d,36000,39600;-xl87rc.1 kvnarc.3 " ++
      "ikvh40.2 9et80.3 9d440.2 9et80.3 9d440.2 9et80.3 9eys0.2 9d6w0.4 9d1c0.5 9d1c0.4 9d1c0.5 9d1c0.4 " ++
      "9d1c0.5 9d1c0.4 9d1c0.5 9d1c0.4 9d1c0.5 9d1c0.4 9d1c0.5 9q000.4 9d1c0.6 9d440.7 5reo0.4 3ljw0.5 " ++
      "9d1c0.4 9d1c0.5 9d1c0.4 9d1c0.5 9d1c0.4 9d1c0.5 9d1c0.4 9q000.5 asw00.4 7x6o0.6 asys0.7 7x6o0.6 " ++
      "asw00.7 7x6o0.6 b5uo0.7 7k800.6 b5uo0.7 7k800.6 b5uo0.7 7x6o0.6 asw00.7 7x6o0.6 asw00.7 7x6o0.6 " ++
      "b5uo0.7 7k800.6 b5uo0.7 7k800.6 b5uo0.7 7k800.6 b5uo0.7 7x6o0.6 asw00.7 7x6o0.6 asw00.7 7x6o0.6 " ++
      "b5uo0.7 7k800.4 1vbzw0.7 qnc40.4 bdwf7j.4;<+11>-11",
    "Asia/Samarkand=16073,14400,18000,21600d,21600,18000,21600d;-nu18eh.1 37a1ah.2 qi27w0.3 9et80.4 " ++
      "9d1c0.3 9ew00.2 9d440.3 9et80.2 9eys0.3 9d6w0.5 9d1c0.6 9d1c0.5 9d1c0.6 9d1c0.5 9d1c0.6 9d1c0.5 " ++
      "9d1c0.6 9d1c0.5 9d1c0.6 9d1c0.5 9d1c0.6 9q000.5 9d1c0.6 9d1c0.5 o62pbj.5;<+05>-5",
    "Asia/Seoul ROK=30472,30600,32400,36000d,32400,34200d,36000d;-w8966g.1 1yh18g.2 hkx5a0.4 1faao0.3 " ++
      "5cik0.4 ae5g0.3 8a2k0.4 ae5g0.3 8bx80.4 c8tg0.3 6h980.4 1bj6s0.1 l3aq0.5 6j3w0.1 d2g40.5 6u7w0.1 " ++
      "b5xg0.5 776k0.1 biw40.5 776k0.1 biw40.5 776k0.1 biw40.5 776k0.1 grs40.4 dfqxi0.3 7x6o0.4 asw00.3 " ++
      "7x6o0.4;KST-9",
    "Asia/Singapore Singapore=24925,24925,25200,26400d,26400,27000,32400,28800;-100ewkd.1 2ax6o0.2 " ++
      "eeb94d.3 1kbr2o.4 2yhc00.5 8n3jc.6 1v2p60.5 iy3ms0.7 t93z7j.7;<+08>-8",
    "Asia/Srednekolymsk=36892,36000,43200d,39600,39600,43200d,39600d,36000,43200,43200d,39600;-nu1ogs.1 " ++
      "37a0os.3 qi27w0.2 9et80.3 9d440.2 9et80.3 9d440.2 9et80.3 9eys0.2 9d6w0.4 9d1c0.5 9d1c0.4 " ++
      "9d1c0.5 9d1c0.4 9d1c0.5 9d1c0.4 9d1c0.5 9d1c0.4 9d1c0.5 9d1c0.4 9d1c0.5 9q000.4 9d1c0.6 9d440.7 " ++
      "5reo0.4 3ljw0.5 9d1c0.4 9d1c0.5 9d1c0.4 9d1c0.5 9d1c0.4 9d1c0.5 9d1c0.4 9q000.5 asw00.4 7x6o0.5 " ++
      "asw00.4 7x6o0.5 asw00.4 7x6o0.5 b5uo0.4 7k800.5 b5uo0.4 7k800.5 b5uo0.4 7x6o0.5 asw00.4 7x6o0.5 " ++
      "asw00.4 7x6o0.5 b5uo0.4 7k800.5 b5uo0.4 7k800.5 b5uo0.4 7k800.5 b5uo0.4 7x6o0.5 asw00.4 7x6o0.5 " ++
      "asw00.4 7x6o0.5 b5uo0.4 7k800.8 1vbzw0.4 c4ju3j.4;<+11>-11",
    "Asia/Taipei ROC=29160,28800,32400,32400d,28800;-12mch60.1 lsd1m0.2 45slc0.1 c51c0.3 75bw0.1 " ++
      "a31g0.3 aaak0.1 9d440.3 7v980.1 awo40.3 7v980.1 awo40.3 7v980.1 awo40.3 7v980.1 7tk40.3 clmk0.1 " ++
      "7rpg0.3 b07w0.1 7rpg0.3 b07w0.1 7rpg0.3 9et80.1 9eys0.3 9et80.1 9d440.3 9et80.1 9d440.3 9et80.1 " ++
      "9d440.3 9et80.1 cjxg0.3 69uk0.1 ci2s0.3 69uk0.1 6its40.3 9et80.1 9d440.3 9et80.1 1yf9g0.3 " ++
      "4qak0.1;CST-8",
    "Asia/Tashkent=16631,18000,25200d,21600,21600,25200d,21600d,18000;-nu18tz.1 379yxz.3 qi27w0.2 " ++
      "9et80.3 9d440.2 9et80.3 9d440.2 9et80.3 9eys0.2 9d6w0.4 9d1c0.5 9d1c0.4 9d1c0.5 9d1c0.4 9d1c0.5 " ++
      "9d1c0.4 9d1c0.5 9d1c0.4 9d1c0.5 9d1c0.4 9d1c0.5 9q000.4 9d1c0.6 9d440.7 o62pbj.7;<+05>-5",
    "Asia/Tbilisi=10751,10751,10800,18000d,14400,14400,18000d,14400d,10800,14400d,14400;-1ayyayn.1 " ++
      "n4x6o0.2 h4tjyn.4 ckinw0.3 9et80.4 9d440.3 9et80.4 9d440.3 9et80.4 9eys0.3 9d6w0.5 9d1c0.6 " ++
      "9d1c0.5 9d1c0.6 9d1c0.5 9d1c0.6 9d1c0.5 9d1c0.6 9d1c0.5 9d1c0.6 9d1c0.5 9d1c0.6 9q000.5 9d1c0.7 " ++
      "9d440.8 9cvs0.9 9cyk0.2 9d440.9 9cyk0.2 9d440.9 9cyk0.4 9d1c0.3 9cyk0.4 9q2s0.3 ipzw0.3 asw00.4 " ++
      "7x9g0.3 ast80.4 7x9g0.3 b5rw0.4 7kas0.3 b5rw0.4 7kas0.3 b5rw0.4 7x9g0.3 ast80.4 7x9g0.3 ast80.4 " ++
      "7x9g0.3 4ofw0.9 6hn40.8 7k800.4 h4kmfj.4;<+04>-4",
    "Asia/Tehran Iran=12344,12344,16200d,12600,18000d,14400,16200d,12600;-s6m6uw.1 a5dpc0.3 lsvh0w.2 " ++
      "ayg00.5 7z2q0.4 6uao0.5 51hc0.3 a4uq0.2 5wvw0.3 9gtg0.2 9kd80.3 5ja5g0.2 7avw0.3 9d440.2 9gnw0.3 " ++
      "9b9g0.2 9gnw0.3 9b9g0.2 9gnw0.3 9b9g0.2 9gnw0.3 9b9g0.2 9gnw0.3 9d440.2 9gnw0.3 9b9g0.2 9gnw0.3 " ++
      "9b9g0.2 9gnw0.3 9b9g0.2 9gnw0.3 9d440.2 9gnw0.3 9b9g0.2 9gnw0.3 9b9g0.2 9gnw0.3 9b9g0.2 9gnw0.3 " ++
      "9d440.2 9gnw0.3 1av440.2 9gnw0.3 9d440.2 9gnw0.3 9b9g0.2 9gnw0.3 9b9g0.2 9gnw0.3 9b9g0.2 9gnw0.3 " ++
      "9d440.2 9gnw0.3 9b9g0.2 9gnw0.3 9b9g0.2 9gnw0.3 9b9g0.2 9gnw0.3 9d440.2 9gnw0.3 9b9g0.2 9gnw0.3 " ++
      "9b9g0.2 9gnw0.3 9b9g0.2 9gnw0.3 9d440.2 9gnw0.3 9b9g0.2 9gnw0.3 7zz9hj.3;<+0330>-3:30",
    "Asia/Thimbu Asia/Thimphu=21516,19800,21600;-bojclo.1 kxymno.2 q94qxj.2;<+06>-6",
    "Asia/Tokyo Japan=33539,36000d,32400,32400;-16snno0.3 vhjeo0.1 6uao0.2 afxc0.1 8a5c0.2 c8qo0.1 " ++
      "6hc00.2 c8qo0.1 6hc00.2;JST-9",
    "Asia/Tomsk=20391,21600,28800d,25200,25200,28800d,25200d,21600,25200d,25200;-q3zbqf.1 5h7z2f.3 " ++
      "qi27w0.2 9et80.3 9d440.2 9et80.3 9d440.2 9et80.3 9eys0.2 9d6w0.4 9d1c0.5 9d1c0.4 9d1c0.5 9d1c0.4 " ++
      "9d1c0.5 9d1c0.4 9d1c0.5 9d1c0.4 9d1c0.5 9d1c0.4 9d1c0.5 9q000.4 9d1c0.6 9d440.7 5reo0.4 3ljw0.5 " ++
      "9d1c0.4 9d1c0.5 9d1c0.4 9d1c0.5 9d1c0.4 9d1c0.5 9d1c0.4 9q000.5 asw00.4 7x6o0.5 asw00.4 7x6o0.5 " ++
      "asw00.4 7x6o0.5 b5uo0.4 7k800.5 b5uo0.4 7k800.5 b5uo0.4 7x6o0.5 1leo0.8 97k40.7 7x6o0.6 asw00.7 " ++
      "7x6o0.6 b5uo0.7 7k800.6 b5uo0.7 7k800.6 b5uo0.7 7k800.6 b5uo0.7 7x6o0.6 asw00.7 7x6o0.6 asw00.7 " ++
      "7x6o0.6 b5uo0.7 7k800.4 1vbzw0.7 tw040.4 bang3j.4;<+07>-7",
    "Asia/Ust-Nera=34374,28800,32400,39600,43200d,39600,43200d,39600d,36000,43200,43200d,36000;-q4cl6u.1 " ++
      "5hl2yu.2 qi27w0.4 9eno0.3 9d440.4 9et80.3 9d440.4 9et80.3 9eys0.4 9d6w0.5 9d1c0.6 9d1c0.5 " ++
      "9d1c0.6 9d1c0.5 9d1c0.6 9d1c0.5 9d1c0.6 9d1c0.5 9d1c0.6 9d1c0.5 9d1c0.6 9q000.5 9d1c0.7 9d440.8 " ++
      "5reo0.5 3ljw0.6 9d1c0.5 9d1c0.6 9d1c0.5 9d1c0.6 9d1c0.5 9d1c0.6 9d1c0.5 9q000.6 asw00.5 7x6o0.6 " ++
      "asw00.5 7x6o0.6 asw00.5 7x6o0.6 b5uo0.5 7k800.6 b5uo0.5 7k800.6 b5uo0.5 7x6o0.6 asw00.5 7x6o0.6 " ++
      "asw00.5 7x6o0.6 b5uo0.5 7k800.6 b5uo0.5 7k800.6 b5uo0.5 7k800.6 b5uo0.5 7x6o0.6 asw00.5 7x6o0.6 " ++
      "asw00.5 7x6o0.6 b5uo0.5 7k800.9 8ql00.5 1mlho0.8 c4jrbj.8;<+10>-10",
    "Asia/Vientiane=24624,25590,25200,28800,32400,25200;-x568c0.1 2ishx6.2 gj25iu.3 15ct80.4 8so00.2 " ++
      "tmtk0.3 470yk0.2 1772cjj.2;<+07>-7",
    "Asia/Vladivostok=31651,32400,39600d,36000,36000,39600d,36000d,32400,39600,39600d,36000;-oligf7.1 " ++
      "3yqvf7.3 qi27w0.2 9et80.3 9d440.2 9et80.3 9d440.2 9et80.3 9eys0.2 9d6w0.4 9d1c0.5 9d1c0.4 " ++
      "9d1c0.5 9d1c0.4 9d1c0.5 9d1c0.4 9d1c0.5 9d1c0.4 9d1c0.5 9d1c0.4 9d1c0.5 9q000.4 9d1c0.6 9d440.7 " ++
      "5reo0.4 3ljw0.5 9d1c0.4 9d1c0.5 9d1c0.4 9d1c0.5 9d1c0.4 9d1c0.5 9d1c0.4 9q000.5 asw00.4 7x6o0.5 " ++
      "asw00.4 7x6o0.5 asw00.4 7x6o0.5 b5uo0.4 7k800.5 b5uo0.4 7k800.5 b5uo0.4 7x6o0.5 asw00.4 7x6o0.5 " ++
      "asw00.4 7x6o0.5 b5uo0.4 7k800.5 b5uo0.4 7k800.5 b5uo0.4 7k800.5 b5uo0.4 7x6o0.5 asw00.4 7x6o0.5 " ++
      "asw00.4 7x6o0.5 b5uo0.4 7k800.8 1vbzw0.4 c4jrbj.4;<+10>-10",
    "Asia/Yakutsk=31138,28800,36000d,32400,32400,36000d,32400d,28800,36000,36000d,32400;-q4cioy.1 " ++
      "5hl0gy.3 qi27w0.2 9et80.3 9d440.2 9et80.3 9d440.2 9et80.3 9eys0.2 9d6w0.4 9d1c0.5 9d1c0.4 " ++
      "9d1c0.5 9d1c0.4 9d1c0.5 9d1c0.4 9d1c0.5 9d1c0.4 9d1c0.5 9d1c0.4 9d1c0.5 9q000.4 9d1c0.6 9d440.7 " ++
      "5reo0.4 3ljw0.5 9d1c0.4 9d1c0.5 9d1c0.4 9d1c0.5 9d1c0.4 9d1c0.5 9d1c0.4 9q000.5 asw00.4 7x6o0.5 " ++
      "asw00.4 7x6o0.5 asw00.4 7x6o0.5 b5uo0.4 7k800.5 b5uo0.4 7k800.5 b5uo0.4 7x6o0.5 asw00.4 7x6o0.5 " ++
      "asw00.4 7x6o0.5 b5uo0.4 7k800.5 b5uo0.4 7k800.5 b5uo0.4 7k800.5 b5uo0.4 7x6o0.5 asw00.4 7x6o0.5 " ++
      "asw00.4 7x6o0.5 b5uo0.4 7k800.8 1vbzw0.4 c4jojj.4;<+09>-9",
    "Asia/Yekaterinburg=14553,13505,14400,21600d,18000,18000,21600d,18000d,14400,21600,21600d,18000;-rx5hw9.1 " ++
      "1kybx4.2 5pfyv5.4 qi27w0.3 9et80.4 9d440.3 9et80.4 9d440.3 9et80.4 9eys0.3 9d6w0.5 9d1c0.6 " ++
      "9d1c0.5 9d1c0.6 9d1c0.5 9d1c0.6 9d1c0.5 9d1c0.6 9d1c0.5 9d1c0.6 9d1c0.5 9d1c0.6 9q000.5 9d1c0.7 " ++
      "9d440.8 5reo0.5 3ljw0.6 9d1c0.5 9d1c0.6 9d1c0.5 9d1c0.6 9d1c0.5 9d1c0.6 9d1c0.5 9q000.6 asw00.5 " ++
      "7x6o0.6 asw00.5 7x6o0.6 asw00.5 7x6o0.6 b5uo0.5 7k800.6 b5uo0.5 7k800.6 b5uo0.5 7x6o0.6 asw00.5 " ++
      "7x6o0.6 asw00.5 7x6o0.6 b5uo0.5 7k800.6 b5uo0.5 7k800.6 b5uo0.5 7k800.6 b5uo0.5 7x6o0.6 asw00.5 " ++
      "7x6o0.6 asw00.5 7x6o0.6 b5uo0.5 7k800.9 1vbzw0.5 c4jdfj.5;<+05>-5",
    "Asia/Yerevan=10680,10800,18000d,14400,14400,18000d,14400d,10800,18000d,14400;-nu148o.1 h4tjwo.3 " ++
      "ckinw0.2 9et80.3 9d440.2 9et80.3 9d440.2 9et80.3 9eys0.2 9d6w0.4 9d1c0.5 9d1c0.4 9d1c0.5 9d1c0.4 " ++
      "9d1c0.5 9d1c0.4 9d1c0.5 9d1c0.4 9d1c0.5 9d1c0.4 9d1c0.5 9q000.4 9d1c0.6 9d440.7 9d1c0.6 9d1c0.7 " ++
      "9d1c0.6 9d1c0.7 9d1c0.6 9d1c0.7 9d1c0.6 9d1c0.4 sfzw0.5 asw00.4 7x6o0.5 asw00.4 7x6o0.5 b5uo0.4 " ++
      "7k800.5 b5uo0.4 7k800.5 b5uo0.4 7x6o0.5 asw00.4 7x6o0.5 asw00.4 7x6o0.5 b5uo0.4 7k800.5 b5uo0.4 " ++
      "7k800.5 b5uo0.4 7k800.5 b5uo0.4 7x6o0.5 asw00.4 7x6o0.5 asw00.4 7x6o0.5 b5uo0.4 7k800.5 b5uo0.4 " ++
      "dopfvj.4;<+04>-4",
    "Australia/ACT Australia/Canberra Australia/NSW Australia/Sydney=36292,39600d,36000,36000;-133j5c4.3 " ++
      "bfqds4.1 49pc0.2 cxfk00.1 4h400.2 9d1c0.1 9d1c0.2 9q000.1 902o0.2 eeio00.1 64dc0.2 clpc0.1 " ++
      "6hc00.2 c8qo0.1 6hc00.2 c8qo0.1 6hc00.2 c8qo0.1 6uao0.2 c8qo0.1 6hc00.2 c8qo0.1 6hc00.2 c8qo0.1 " ++
      "6hc00.2 c8qo0.1 6hc00.2 c8qo0.1 6hc00.2 c8qo0.1 8a5c0.2 asw00.1 6hc00.2 c8qo0.1 6hc00.2 c8qo0.1 " ++
      "6hc00.2 c8qo0.1 779c0.2 b5uo0.1 7k800.2 bitc0.1 7k800.2 bitc0.1 779c0.2 bitc0.1 6hc00.2 c8qo0.1 " ++
      "6hc00.2 c8qo0.1 6hc00.2 c8qo0.1 6uao0.2 c8qo0.1 6hc00.2 c8qo0.1 6hc00.2 c8qo0.1 7x6o0.2 asw00.1 " ++
      "7x6o0.2 asw00.1 7x6o0.2 asw00.1 7x6o0.2 b5uo0.1 7k800.2 7x6o0.1 asw00.2 b5uo0.1 7x6o0.2 asw00.1 " ++
      "7x6o0.2 asw00.1 7x6o0.2 b5uo0.1 7k800.2 b5uo0.1 7x6o0.2 asw00.1 7k800.2 b5uo0.1 8a5c0.2 9d1c0.1 " ++
      "9d1c0.2 9d1c0.1 9d1c0.2 9d1c0.1 9d1c0.2 9d1c0.1 9d1c0.2 9q000.1 9d1c0.2 9d1c0.1 9d1c0.2 9d1c0.1 " ++
      "9d1c0.2 9d1c0.1 9d1c0.2 9d1c0.1 9d1c0.2 9d1c0.1 9d1c0.2 9q000.1 9d1c0.2 9d1c0.1 9d1c0.2 9d1c0.1 " ++
      "9d1c0.2 9d1c0.1 9d1c0.2 9d1c0.1 9d1c0.2 9d1c0.1 9q000.2 9d1c0.1 9d1c0.2 9d1c0.1 9d1c0.2 9d1c0.1 " ++
      "9d1c0.2 9d1c0.1 9d1c0.2 9d1c0.1 9d1c0.2 9q000.1 9d1c0.2 9d1c0.1 9d1c0.2 9d1c0.1 9d1c0.2 9d1c0.1 " ++
      "9d1c0.2 9d1c0.1 9d1c0.2 9d1c0.1 9d1c0.2 9q000.1 9d1c0.2 9d1c0.1 9d1c0.2 9d1c0.1;AEST-10AEDT,M10.1.0,M4.1.0/3",
    "Australia/Adelaide Australia/South=33260,32400,37800d,34200,34200;-133j2zw.1 27qdzw.4 97zyu0.2 " ++
      "49pc0.3 cxfk00.2 4h400.3 9d1c0.2 9d1c0.3 9q000.2 902o0.3 eeio00.2 64dc0.3 clpc0.2 6hc00.3 " ++
      "c8qo0.2 6hc00.3 c8qo0.2 6hc00.3 c8qo0.2 6uao0.3 c8qo0.2 6hc00.3 c8qo0.2 6hc00.3 c8qo0.2 6hc00.3 " ++
      "c8qo0.2 6hc00.3 c8qo0.2 6hc00.3 c8qo0.2 6uao0.3 c8qo0.2 6hc00.3 c8qo0.2 6hc00.3 c8qo0.2 6hc00.3 " ++
      "c8qo0.2 779c0.3 b5uo0.2 7k800.3 bitc0.2 7k800.3 bitc0.2 779c0.3 bitc0.2 779c0.3 bitc0.2 6hc00.3 " ++
      "c8qo0.2 7k800.3 b5uo0.2 6uao0.3 c8qo0.2 779c0.3 bitc0.2 7k800.3 b5uo0.2 7x6o0.3 asw00.2 7x6o0.3 " ++
      "asw00.2 7x6o0.3 asw00.2 7x6o0.3 b5uo0.2 7k800.3 b5uo0.2 7k800.3 b5uo0.2 7x6o0.3 asw00.2 7x6o0.3 " ++
      "asw00.2 7x6o0.3 b5uo0.2 7k800.3 b5uo0.2 7x6o0.3 asw00.2 7k800.3 b5uo0.2 8a5c0.3 9d1c0.2 9d1c0.3 " ++
      "9d1c0.2 9d1c0.3 9d1c0.2 9d1c0.3 9d1c0.2 9d1c0.3 9q000.2 9d1c0.3 9d1c0.2 9d1c0.3 9d1c0.2 9d1c0.3 " ++
      "9d1c0.2 9d1c0.3 9d1c0.2 9d1c0.3 9d1c0.2 9d1c0.3 9q000.2 9d1c0.3 9d1c0.2 9d1c0.3 9d1c0.2 9d1c0.3 " ++
      "9d1c0.2 9d1c0.3 9d1c0.2 9d1c0.3 9d1c0.2 9q000.3 9d1c0.2 9d1c0.3 9d1c0.2 9d1c0.3 9d1c0.2 9d1c0.3 " ++
      "9d1c0.2 9d1c0.3 9d1c0.2 9d1c0.3 9q000.2 9d1c0.3 9d1c0.2 9d1c0.3 9d1c0.2 9d1c0.3 9d1c0.2 9d1c0.3 " ++
      "9d1c0.2 9d1c0.3 9d1c0.2 9d1c0.3 9q000.2 9d1c0.3 9d1c0.2 9d1c0.3 9d1c0.2;ACST-9:30ACDT,M10.1.0,M4.1.0/3",
    "Australia/Brisbane Australia/Queensland=36728,39600d,36000,36000;-1354kc8.3 bhbss8.1 49pc0.2 " ++
      "cxfk00.1 4h400.2 9d1c0.1 9d1c0.2 9q000.1 902o0.2 eeio00.1 64dc0.2 97zuo0.1 6hc00.2 c8qo0.1 " ++
      "6hc00.2 c8qo0.1 6hc00.2;AEST-10",
    "Australia/Broken_Hill Australia/Yancowinna=33948,36000,32400,37800d,34200,34200;-133j3j0.1 " ++
      "t9nr0.2 1egqs0.5 97zyu0.3 49pc0.4 cxfk00.3 4h400.4 9d1c0.3 9d1c0.4 9q000.3 902o0.4 eeio00.3 " ++
      "64dc0.4 clpc0.3 6hc00.4 c8qo0.3 6hc00.4 c8qo0.3 6hc00.4 c8qo0.3 6uao0.4 c8qo0.3 6hc00.4 c8qo0.3 " ++
      "6hc00.4 c8qo0.3 6hc00.4 c8qo0.3 6hc00.4 c8qo0.3 6hc00.4 c8qo0.3 8a5c0.4 asw00.3 6hc00.4 c8qo0.3 " ++
      "6hc00.4 c8qo0.3 6hc00.4 c8qo0.3 779c0.4 b5uo0.3 7k800.4 bitc0.3 7k800.4 bitc0.3 779c0.4 bitc0.3 " ++
      "6hc00.4 c8qo0.3 6hc00.4 c8qo0.3 6hc00.4 c8qo0.3 6uao0.4 c8qo0.3 6hc00.4 c8qo0.3 6hc00.4 c8qo0.3 " ++
      "7x6o0.4 asw00.3 7x6o0.4 asw00.3 7x6o0.4 asw00.3 7x6o0.4 b5uo0.3 7k800.4 b5uo0.3 7k800.4 b5uo0.3 " ++
      "7x6o0.4 asw00.3 7x6o0.4 asw00.3 7x6o0.4 b5uo0.3 7k800.4 b5uo0.3 7x6o0.4 asw00.3 7k800.4 b5uo0.3 " ++
      "8a5c0.4 9d1c0.3 9d1c0.4 9d1c0.3 9d1c0.4 9d1c0.3 9d1c0.4 9d1c0.3 9d1c0.4 9q000.3 9d1c0.4 9d1c0.3 " ++
      "9d1c0.4 9d1c0.3 9d1c0.4 9d1c0.3 9d1c0.4 9d1c0.3 9d1c0.4 9d1c0.3 9d1c0.4 9q000.3 9d1c0.4 9d1c0.3 " ++
      "9d1c0.4 9d1c0.3 9d1c0.4 9d1c0.3 9d1c0.4 9d1c0.3 9d1c0.4 9d1c0.3 9q000.4 9d1c0.3 9d1c0.4 9d1c0.3 " ++
      "9d1c0.4 9d1c0.3 9d1c0.4 9d1c0.3 9d1c0.4 9d1c0.3 9d1c0.4 9q000.3 9d1c0.4 9d1c0.3 9d1c0.4 9d1c0.3 " ++
      "9d1c0.4 9d1c0.3 9d1c0.4 9d1c0.3 9d1c0.4 9d1c0.3 9d1c0.4 9q000.3 9d1c0.4 9d1c0.3 9d1c0.4 9d1c0.3;ACST-9:30ACDT,M10.1.0,M4" ++
      ".1.0/3",
    "Australia/Currie Australia/Hobart Australia/Tasmania=35356,39600d,36000,36000;-12smja4.3 b03ee4.1 " ++
      "902o0.2 b5uo0.1 6hc00.2 c8qo0.1 6hc00.2 bx2ao0.1 4h400.2 9d1c0.1 9d1c0.2 9q000.1 902o0.2 c9tk00.1 " ++
      "9d1c0.2 asw00.1 6uao0.2 bvs00.1 6uao0.2 bvs00.1 779c0.2 bvs00.1 64dc0.2 clpc0.1 6hc00.2 c8qo0.1 " ++
      "6hc00.2 c8qo0.1 6hc00.2 c8qo0.1 6uao0.2 c8qo0.1 6hc00.2 c8qo0.1 6hc00.2 c8qo0.1 6hc00.2 c8qo0.1 " ++
      "6hc00.2 c8qo0.1 6hc00.2 c8qo0.1 7x6o0.2 b5uo0.1 7k800.2 b5uo0.1 6hc00.2 c8qo0.1 6hc00.2 c8qo0.1 " ++
      "6hc00.2 bvs00.1 7k800.2 bitc0.1 7k800.2 bitc0.1 779c0.2 bitc0.1 779c0.2 bitc0.1 7x6o0.2 9q000.1 " ++
      "902o0.2 9q000.1 902o0.2 9q000.1 902o0.2 9q000.1 902o0.2 9q000.1 9d1c0.2 9q000.1 902o0.2 9q000.1 " ++
      "902o0.2 9q000.1 902o0.2 9q000.1 902o0.2 7x6o0.1 asw00.2 a2yo0.1 902o0.2 9q000.1 902o0.2 9q000.1 " ++
      "902o0.2 9q000.1 902o0.2 9q000.1 9d1c0.2 9d1c0.1 902o0.2 a2yo0.1 9d1c0.2 9d1c0.1 9d1c0.2 9d1c0.1 " ++
      "9d1c0.2 9d1c0.1 9d1c0.2 9d1c0.1 9d1c0.2 9q000.1 9d1c0.2 9d1c0.1 9d1c0.2 9d1c0.1 9d1c0.2 9d1c0.1 " ++
      "9d1c0.2 9d1c0.1 9d1c0.2 9d1c0.1 9d1c0.2 9q000.1 9d1c0.2 9d1c0.1 9d1c0.2 9d1c0.1 9d1c0.2 9d1c0.1 " ++
      "9d1c0.2 9d1c0.1 9d1c0.2 9d1c0.1 9q000.2 9d1c0.1 9d1c0.2 9d1c0.1 9d1c0.2 9d1c0.1 9d1c0.2 9d1c0.1 " ++
      "9d1c0.2 9d1c0.1 9d1c0.2 9q000.1 9d1c0.2 9d1c0.1 9d1c0.2 9d1c0.1 9d1c0.2 9d1c0.1 9d1c0.2 9d1c0.1 " ++
      "9d1c0.2 9d1c0.1 9d1c0.2 9q000.1 9d1c0.2 9d1c0.1 9d1c0.2 9d1c0.1;AEST-10AEDT,M10.1.0,M4.1.0/3",
    "Australia/Darwin Australia/North=31400,32400,37800d,34200,34200;-133j1k8.1 27qck8.4 97zyu0.2 " ++
      "49pc0.3 cxfk00.2 4h400.3 9d1c0.2 9d1c0.3 9q000.2 902o0.3;ACST-9:30",
    "Australia/Eucla=30928,35100d,31500,31500;-12nxx74.3 b05944.1 49pc0.2 cxfk00.1 4h400.2 9d1c0.1 " ++
      "9d1c0.2 gheyo0.1 6hc00.2 4ir9c0.1 6hc00.2 40r400.1 5eg00.2 7p9hc0.1 5reo0.2 b5uo0.1 7x6o0.2 " ++
      "asw00.1 7x6o0.2 f1bt2j.2;<+0845>-8:45",
    "Australia/LHI Australia/Lord_Howe=38180,36000,41400d,37800,39600d;-133j6sk.1 18x8f0k.3 c8uu0.2 " ++
      "6u7w0.3 c8tg0.2 6h980.3 c8tg0.2 6h980.3 c8tg0.2 6h980.3 c8tg0.4 777y0.3 b5w20.4 7k6m0.3 biuq0.4 " ++
      "7k6m0.3 biuq0.4 777y0.3 biuq0.4 6ham0.3 c8s20.4 6ham0.3 c8s20.4 6ham0.3 c8s20.4 6u9a0.3 c8s20.4 " ++
      "6ham0.3 c8s20.4 6ham0.3 c8s20.4 7x5a0.3 asxe0.4 7x5a0.3 asxe0.4 7x5a0.3 asxe0.4 7x5a0.3 b5w20.4 " ++
      "7k6m0.3 7x820.4 asum0.3 b5w20.4 7x5a0.3 asxe0.4 7x5a0.3 asxe0.4 7x5a0.3 b5w20.4 7k6m0.3 b5w20.4 " ++
      "7x5a0.3 asxe0.4 7k6m0.3 b5w20.4 8a3y0.3 9d2q0.4 9czy0.3 9d2q0.4 9czy0.3 9d2q0.4 9czy0.3 9d2q0.4 " ++
      "9czy0.3 9q1e0.4 9czy0.3 9d2q0.4 9czy0.3 9d2q0.4 9czy0.3 9d2q0.4 9czy0.3 9d2q0.4 9czy0.3 9d2q0.4 " ++
      "9czy0.3 9q1e0.4 9czy0.3 9d2q0.4 9czy0.3 9d2q0.4 9czy0.3 9d2q0.4 9czy0.3 9d2q0.4 9czy0.3 9d2q0.4 " ++
      "9pym0.3 9d2q0.4 9czy0.3 9d2q0.4 9czy0.3 9d2q0.4 9czy0.3 9d2q0.4 9czy0.3 9d2q0.4 9czy0.3 9q1e0.4 " ++
      "9czy0.3 9d2q0.4 9czy0.3 9d2q0.4 9czy0.3 9d2q0.4 9czy0.3 9d2q0.4 9czy0.3 9d2q0.4 9czy0.3 9q1e0.4 " ++
      "9czy0.3 9d2q0.4 9czy0.3 9d2q0.4 5j1xj.4;<+1030>-10:30<+11>-11,M10.1.0,M4.1.0",
    "Australia/Lindeman=35756,39600d,36000,36000;-1354jl8.3 bhbs18.1 49pc0.2 cxfk00.1 4h400.2 9d1c0.1 " ++
      "9d1c0.2 9q000.1 902o0.2 eeio00.1 64dc0.2 97zuo0.1 6hc00.2 c8qo0.1 6hc00.2 c8qo0.1 6hc00.2 " ++
      "c8qo0.1 6uao0.2 c8qo0.1 6hc00.2;AEST-10",
    "Australia/Melbourne Australia/Victoria=34792,39600d,36000,36000;-133j46g.3 bfqcmg.1 49pc0.2 " ++
      "cxfk00.1 4h400.2 9d1c0.1 9d1c0.2 9q000.1 902o0.2 eeio00.1 64dc0.2 clpc0.1 6hc00.2 c8qo0.1 " ++
      "6hc00.2 c8qo0.1 6hc00.2 c8qo0.1 6uao0.2 c8qo0.1 6hc00.2 c8qo0.1 6hc00.2 c8qo0.1 6hc00.2 c8qo0.1 " ++
      "6hc00.2 c8qo0.1 6hc00.2 c8qo0.1 6uao0.2 c8qo0.1 6hc00.2 c8qo0.1 6hc00.2 c8qo0.1 6hc00.2 c8qo0.1 " ++
      "779c0.2 b5uo0.1 7k800.2 b5uo0.1 7x6o0.2 bitc0.1 779c0.2 bitc0.1 779c0.2 bitc0.1 6hc00.2 c8qo0.1 " ++
      "6hc00.2 c8qo0.1 6uao0.2 c8qo0.1 6hc00.2 c8qo0.1 7k800.2 b5uo0.1 7x6o0.2 asw00.1 7x6o0.2 asw00.1 " ++
      "7x6o0.2 asw00.1 7x6o0.2 b5uo0.1 7k800.2 7x6o0.1 asw00.2 b5uo0.1 7x6o0.2 asw00.1 7x6o0.2 asw00.1 " ++
      "7x6o0.2 b5uo0.1 7k800.2 b5uo0.1 7x6o0.2 asw00.1 7k800.2 b5uo0.1 8a5c0.2 9d1c0.1 9d1c0.2 9d1c0.1 " ++
      "9d1c0.2 9d1c0.1 9d1c0.2 9d1c0.1 9d1c0.2 9q000.1 9d1c0.2 9d1c0.1 9d1c0.2 9d1c0.1 9d1c0.2 9d1c0.1 " ++
      "9d1c0.2 9d1c0.1 9d1c0.2 9d1c0.1 9d1c0.2 9q000.1 9d1c0.2 9d1c0.1 9d1c0.2 9d1c0.1 9d1c0.2 9d1c0.1 " ++
      "9d1c0.2 9d1c0.1 9d1c0.2 9d1c0.1 9q000.2 9d1c0.1 9d1c0.2 9d1c0.1 9d1c0.2 9d1c0.1 9d1c0.2 9d1c0.1 " ++
      "9d1c0.2 9d1c0.1 9d1c0.2 9q000.1 9d1c0.2 9d1c0.1 9d1c0.2 9d1c0.1 9d1c0.2 9d1c0.1 9d1c0.2 9d1c0.1 " ++
      "9d1c0.2 9d1c0.1 9d1c0.2 9q000.1 9d1c0.2 9d1c0.1 9d1c0.2 9d1c0.1;AEST-10AEDT,M10.1.0,M4.1.0/3",
    "Australia/Perth Australia/West=27804,32400d,28800,28800;-12nxusc.3 b058sc.1 49pc0.2 cxfk00.1 " ++
      "4h400.2 9d1c0.1 9d1c0.2 gheyo0.1 6hc00.2 4ir9c0.1 6hc00.2 40r400.1 5eg00.2 7p9hc0.1 5reo0.2 " ++
      "b5uo0.1 7x6o0.2 asw00.1 7x6o0.2;AWST-8",
    "Indian/Antananarivo=11404,10800,14400d,10800;-uj8gss.1 m9lccs.2 4oio0.3;EAT-3",
    "Indian/Chagos=17380,18000,21600;-wvpc2s.1 1ag64us.2 ly387j.2;<+06>-6",
    "Indian/Christmas=25372,25200;-133iwws.1 22m2xwb.1;<+07>-7",
    "Indian/Cocos=23260,23400;-10j6sm4.1 201qtln.1;<+0630>-6:30",
    "Indian/Comoro=10384,10800;-uj8g0g.1;EAT-3",
    "Indian/Kerguelen=0,18000;-afrs00.1 19ybszj.1;<+05>-5",
    "Indian/Mahe=13308,14400;-wvp8xo.1 1we99x7.1;<+04>-4",
    "Indian/Maldives=17640,17640,18000;-1ayyga0.1 15r19c0.2 14qh7xj.2;<+05>-5",
    "Indian/Mauritius=13800,18000d,14400;-wvp9bc.2 13jnu7c.1 8bx80.2 dd0wc0.1 7x3w0.2 f1binj.2;<+04>-4",
    "Indian/Mayotte=10856,10800;-uj8gdk.1;EAT-3",
    "Indian/Reunion=13312,14400;-uks29s.1 1u3c39b.1;<+04>-4",
    "Pacific/Apia=45184,-41216,-41400,-36000d,-39600,46800,50400d;-14fxxj4.1 9nfeo0.2 kcrmt4.4 " ++
      "vp3la0.3 9odo0.4 902o0.3 4zbk0.6 4qog0.5 9d1c0.6 9q000.5 902o0.6 9q000.5 902o0.6 9q000.5 902o0.6 " ++
      "9q000.5 902o0.6 9q000.5 902o0.6 9q000.5 9d1c0.6 9q000.5 902o0.6 9q000.5 902o0.6 9q000.5 8rka3j.5;<+13>-13",
    "Pacific/Bougainville=37336,35312,36000,32400,39600;-1ayyvh4.1 7tuc88.2 osc24w.3 1n05g0.2 1071c40.4 " ++
      "c1b0jj.4;<+11>-11",
    "Pacific/Chuuk=-49972,36428,36000,32400,36000;-1t8j2rw.1 t83xc0.2 76a5nw.3 29hes0.2 bkenw0.3 " ++
      "29fk40.2 1c9ddzj.2;<+10>-10",
    "Pacific/Efate=40396,43200d,39600,43200d,39600;-u964i4.4 wbu364.1 51hc0.2 4y8qs0.3 9cyk0.4 " ++
      "9d440.3 9cyk0.4 9q2s0.3 8zzw0.4 9q2s0.3 9cyk0.4 9d440.3 9cyk0.4 9d440.3 9cyk0.4 9d440.3 9cyk0.4 " ++
      "9d440.3 9cyk0.4 9q2s0.3 64ak0.4 e1ms0.3 4ofw0.4 nh8ybj.4;<+11>-11",
    "Pacific/Enderbury Pacific/Kanton=0,-43200,-39600,46800;-gvk800.1 lypqo0.2 7yiqk0.3 mgvrrj.3;<+13>-13",
    "Pacific/Fakaofo=-41096,-39600,46800;-100dhmg.1 1lxe1ig.2 dljh3j.2;<+13>-13",
    "Pacific/Fiji=42944,46800d,43200;-sa2x4w.2 17bs00w.1 64dc0.2 cyo00.1 5reo0.2 53a5c0.1 64dc0.2 " ++
      "asw00.1 6uao0.2 bvs00.1 4oio0.2 e1k00.1 4oio0.2 eeio0.1 4bh80.2 erk40.1 3ylc0.2 erhc0.1 3ylc0.2 " ++
      "f4g00.1 3lmo0.2 f4g00.1 3lmo0.2 f4g00.1 3lmo0.2 fheo0.1 38o00.2 hn6o0.1 1fuo0.2 8vivfj.2;<+12>-12",
    "Pacific/Funafuti=43012,43200;-100fais.1 1zizbib.1;<+12>-12",
    "Pacific/Galapagos=-21504,-18000,-18000d,-21600;-kcr62o.1 spdryo.3 3lsas0.2 3jp80.3 nglf3j.3;<-06>6",
    "Pacific/Gambier=-32388,-32400;-tvndoc.1 1te7env.1;<-09>9",
    "Pacific/Guadalcanal Pacific/Ponape=38388,39600;-tvowac.1 1te8x9v.1;<+11>-11",
    "Pacific/Guam=-51660,34740,36000,32400,39600d,36000;-1t8j1h0.1 t83xc0.2 ld6pp0.3 1dl9g0.2 7s1k40.4 " ++
      "txp80.2 3frms0.4 qdrpo.2 7kgac.4 3ljw0.2 c8tg0.4 6u7w0.2 bvus0.4 6u7w0.2 16uo40.4 3ljw0.2 " ++
      "16aas0.4 4ivxo.2 cls2c.4 6h980.2 c65zw0.5;ChST-10",
    "Pacific/Honolulu Pacific/Johnston US/Hawaii=-37886,-37800,-34200d,-34200d,-34200d,-36000;-12lnw3m.1 " ++
      "jgnatm.2 13l00.1 4jvb00.3 1tyvu0.4 2e5e0.1 votg0.5;HST10",
    "Pacific/Kiritimati=-37760,-38400,-36000,50400;-100dk74.1 153iz5s.2 7yirhc.3 mgvujj.3;<+14>-14",
    "Pacific/Kosrae=-47284,39116,39600,32400,36000,43200,39600;-1t8j4uk.1 t83xc0.2 76a4yk.3 29hhk0.2 " ++
      "9cmd40.4 27sas0.3 29fk40.2 cm2540.5 f9l3w0.2 kdq4zj.2;<+11>-11",
    "Pacific/Majuro=41088,39600,32400,36000,43200;-100f91c.1 76a6hc.2 29hhk0.1 9cmd40.3 27sas0.2 " ++
      "1h6w40.1 deat40.4 znb8vj.4;<+12>-12",
    "Pacific/Marquesas=-33480,-34200;-tvncu0.1 1te7dtj.1;<-0930>9:30",
    "Pacific/Midway=-42568,-39600,-36000d,-39600;-100dghk.1 sx94dk.2 4ofw0.3;SST11",
    "Pacific/Nauru=40060,41400,32400,43200;-pjxiws.1 ba66ys.2 1kwca0.1 hfzda0.3 urfndj.3;<+12>-12",
    "Pacific/Niue=-40780,-40800,-39600;-8zbv78.1 63yiok.2 12dxdi7.2;<-11>11",
    "Pacific/Norfolk=40312,40320,41400,45000d,41400,39600,43200d;-100f8fs.1 q3eins.2 cfj8q0.3 6hc00.4 " ++
      "l6nk00.5 239aq0.6 9d1c0.5 9d1c0.6 9d1c0.5 9d1c0.6 9d1c0.5 9d1c0.6 9d1c0.5 9d1c0.6 9q000.5 " ++
      "9d1c0.6 9d1c0.5 9d1c0.6 9d1c0.5 9d1c0.6 9d1c0.5 9d1c0.6 9d1c0.5 9d1c0.6 9d1c0.5 9q000.6 9d1c0.5 " ++
      "9d1c0.6 9d1c0.5 9d1c0.6 9d1c0.5 9d1c0.6 9d1c0.5 9d1c0.6 9d1c0.5 9d1c0.6 9d1c0.5 9q000.6 9d1c0.5 " ++
      "9d1c0.6 9d1c0.5 9d1c0.6 5j3bj.6;<+11>-11<+12>,M10.1.0,M4.1.0/3",
    "Pacific/Noumea=39948,43200d,39600,43200d,39600;-u9645o.2 ye0ixo.1 4dbw0.2 ecqs0.1 4f6k0.2 " ++
      "99p700.3 4oio0.4 lc6nbj.4;<+11>-11",
    "Pacific/Pago_Pago Pacific/Samoa US/Samoa=45432,-40968,-39600;-14fxxq0.1 9nfeo0.2;SST11",
    "Pacific/Palau=-54124,32276,32400;-1t8izkk.1 t83xc0.2 1ziz383.2;<+09>-9",
    "Pacific/Pitcairn=-31220,-30600,-28800;-100dp8s.1 1esg26s.2 kqho1j.2;<-08>8",
    "Pacific/Pohnpei=-48428,37972,39600,32400,36000,39600;-1t8j3ys.1 t83xc0.2 76a42s.3 29hhk0.2 " ++
      "9cmd40.4 27sas0.3 29fk40.2 1c9ddzj.2;<+11>-11",
    "Pacific/Port_Moresby Pacific/Truk Pacific/Yap=35320,35312,36000;-1ayytx4.1 7tuao8.2 22nok8f.2;<+10>-10",
    "Pacific/Rarotonga=48056,-38344,-37800,-36000,-34200d;-10jifqw.1 rk6io0.2 dlv68w.4 5rbw0.3 " ++
      "c8s20.4 6ham0.3 c8s20.4 6ham0.3 c8s20.4 6u9a0.3 c8s20.4 6ham0.3 c8s20.4 6ham0.3 c8s20.4 6ham0.3 " ++
      "c8s20.4 6ham0.3 c8s20.4 6ham0.3 c8s20.4 6u9a0.3 c8s20.4 6ham0.3 c8s20.4 6ham0.3 c8s20.4 6ham0.3 " ++
      "ogumlj.3;<-10>10",
    "Pacific/Saipan=-51420,34980,32400,39600d,36000,36000;-1t8j1no.1 t83xc0.2 mpn8no.4 7t6as0.3 " ++
      "txp80.4 3frms0.3 qdrpo.4 7kgac.3 3ljw0.4 c8tg0.3 6u7w0.4 bvus0.3 6u7w0.4 16uo40.3 3ljw0.4 " ++
      "16aas0.3 4ivxo.4 cls2c.3 6h980.4 c65zw0.5;ChST-10",
    "Pacific/Tahiti=-35896,-36000;-tvnayw.1 1te7byf.1;<-10>10",
    "Pacific/Tarawa=41524,43200;-100f9dg.1 1zizacz.1;<+12>-12",
    "Pacific/Tongatapu=44352,44400,46800,50400d,46800,50400d;-corjk0.1 7znjyo.2 k8amdc.3 8fpc0.4 " ++
      "bvs00.5 4bh80.2 eelg0.5 4bh80.2 7pmis0.5 3lmo0.2 ays7jj.2;<+13>-13",
    "Pacific/Wake=39988,43200;-100f86s.1 1ziz96b.1;<+12>-12",
    "Pacific/Wallis=44120,43200;-100fbdk.1 1zizcd3.1;<+12>-12"]

end PortableSearch.Zone.Data
