/-! Time-zone rules of the Americas, from release 2025c of the tz database (links as 2025b resolves
them). Each item names the zones that share one rule set, then `=` and the text of their rules that
`Zone.Table.ofText` reads. -/

namespace PortableSearch.Zone.Data

/-- Rules of the Americas, one item per rule set. -/
def americas : List String := [
    "America/Adak America/Atka US/Aleutian=44002,-42398,-39600,-36000d,-36000d,-39600,-36000d,-36000,-32400d,-36000;-1hc7qjz." ++
      "1 h4z1xp.2 ln70qa.3 1tyug0.4 2e6s0.2 b7yik0.5 12y080.6 9cyk0.5 9d440.6 9cyk0.5 9d440.6 9px80.5 " ++
      "9d440.6 9cyk0.5 9d440.6 9cyk0.5 3lpg0.6 f4d80.5 64g40.6 clmk0.5 9d440.6 9px80.5 905g0.6 9px80.5 " ++
      "9d440.6 9cyk0.5 9d440.6 9cyk0.5 9d440.6 9cyk0.5 9d440.6 9cyk0.5 9d440.6 9px80.5 905g0.6 9px80.7 " ++
      "1l940.9 7rs80.8 9cyk0.9 9d440.8 9cyk0.9 9d440.8 9cyk0.9 8a840.8 afuk0.9 8a840.8 ast80.9 7x9g0.8 " ++
      "ast80.9 7x9g0.8 ast80.9 8a840.8 afuk0.9 8a840.8 afuk0.9 8a840.8 ast80.9 7x9g0.8 ast80.9 7x9g0.8 " ++
      "ast80.9 8a840.8 afuk0.9 8a840.8 afuk0.9 8a840.8 afuk0.9 8a840.8 ast80.9 7x9g0.8 ast80.9 7x9g0.8 " ++
      "ast80.9 8a840.8 afuk0.9 8a840.8 afuk0.9 8a840.8 ast80.9 7x9g0.8 ast80.9 7x9g0.8 ast80.9 6udg0.8 " ++
      "c8nw0.9 6hes0.8 c8nw0.9 6hes0.8 c8nw0.9 6udg0.8 c8nw0.9 6hes0.8 c8nw0.9 6hes0.8 c8nw0.9 6hes0.8 " ++
      "c8nw0.9 6hes0.8 c8nw0.9 6hes0.8 c8nw0.9 6udg0.8 c8nw0.9 6hes0.8 c8nw0.9 6hes0.8 c8nw0.9 6hes0.8 " ++
      "c8nw0.9 6hes0.8 c8nw0.9 6udg0.8 c8nw0.9 6hes0.8 c8nw0.9 6hes0.8 c8nw0.9 6hes0.8 c8nw0.9 6hes0.8 " ++
      "c8nw0.9 6hes0.8 c8nw0.9 6udg0.8 c8nw0.9 6hes0.8 c8nw0.9 6hes0.8 c8nw0.9 6hes0.8 c8nw0.9 6hes0.8 " ++
      "c8nw0.9 6udg0.8 c8nw0.9 6hes0.8 c8nw0.9 6hes0.8 c8nw0.9 6hes0.8 c8nw0.9 6hes0.8 c8nw0.9 6hes0.8 " ++
      "c8nw0.9;HST10HDT,M3.2.0,M11.1.0",
    "America/Anchorage US/Alaska=50424,-35976,-36000,-32400d,-32400d,-36000,-32400d,-32400,-28800d,-32400;-1hc7qjz.1 " ++
      "h4ywzb.2 ln72wo.3 1tyx80.4 2e400.2 b7yik0.5 12y080.6 9cyk0.5 9d440.6 9cyk0.5 9d440.6 9px80.5 " ++
      "9d440.6 9cyk0.5 9d440.6 9cyk0.5 3lpg0.6 f4d80.5 64g40.6 clmk0.5 9d440.6 9px80.5 905g0.6 9px80.5 " ++
      "9d440.6 9cyk0.5 9d440.6 9cyk0.5 9d440.6 9cyk0.5 9d440.6 9cyk0.5 9d440.6 9px80.5 905g0.6 9px80.7 " ++
      "1l940.9 7rs80.8 9cyk0.9 9d440.8 9cyk0.9 9d440.8 9cyk0.9 8a840.8 afuk0.9 8a840.8 ast80.9 7x9g0.8 " ++
      "ast80.9 7x9g0.8 ast80.9 8a840.8 afuk0.9 8a840.8 afuk0.9 8a840.8 ast80.9 7x9g0.8 ast80.9 7x9g0.8 " ++
      "ast80.9 8a840.8 afuk0.9 8a840.8 afuk0.9 8a840.8 afuk0.9 8a840.8 ast80.9 7x9g0.8 ast80.9 7x9g0.8 " ++
      "ast80.9 8a840.8 afuk0.9 8a840.8 afuk0.9 8a840.8 ast80.9 7x9g0.8 ast80.9 7x9g0.8 ast80.9 6udg0.8 " ++
      "c8nw0.9 6hes0.8 c8nw0.9 6hes0.8 c8nw0.9 6udg0.8 c8nw0.9 6hes0.8 c8nw0.9 6hes0.8 c8nw0.9 6hes0.8 " ++
      "c8nw0.9 6hes0.8 c8nw0.9 6hes0.8 c8nw0.9 6udg0.8 c8nw0.9 6hes0.8 c8nw0.9 6hes0.8 c8nw0.9 6hes0.8 " ++
      "c8nw0.9 6hes0.8 c8nw0.9 6udg0.8 c8nw0.9 6hes0.8 c8nw0.9 6hes0.8 c8nw0.9 6hes0.8 c8nw0.9 6hes0.8 " ++
      "c8nw0.9 6hes0.8 c8nw0.9 6udg0.8 c8nw0.9 6hes0.8 c8nw0.9 6hes0.8 c8nw0.9 6hes0.8 c8nw0.9 6hes0.8 " ++
      "c8nw0.9 6udg0.8 c8nw0.9 6hes0.8 c8nw0.9 6hes0.8 c8nw0.9 6hes0.8 c8nw0.9 6hes0.8 c8nw0.9 6hes0.8 " ++
      "c8nw0.9;AKST9AKDT,M3.2.0,M11.1.0",
    "America/Anguilla=-15136,-14400;-u6m6zk.1;AST4",
    "America/Antigua=-14832,-18000,-14400;-u6m780.1 k9mqg0.2;AST4",
    "America/Araguaina=-11568,-7200d,-10800;-t85j2o.2 99k8mo.1 9a9c0.2 9io40.1 99980.2 8p65g0.1 " ++
      "6zuo0.2 bs2o0.1 67zw0.2 cjxg0.1 69uk0.2 cjxg0.1 4ml80.2 5mf440.1 49mk0.2 haas0.1 316k0.2 cls40.1 " ++
      "4ml80.2 cls40.1 66580.2 cls40.1 67zw0.2 981s40.1 6u7w0.2 biw40.1 5rbw0.2 d0lg0.1 5ed80.2 cyqs0.1 " ++
      "5ed80.2 dbpg0.1 64ak0.2 2yl440.1 64ak0.2 c8tg0.1 6u7w0.2 bxpg0.1 7iak0.2 biw40.1 6u7w0.2 biw40.1 " ++
      "7k580.2 biw40.1 6u7w0.2 c8tg0.1 6h980.2 dbpg0.1 5ed80.2 51udg0.1 64ak0.2 d07nfj.2;<-03>3",
    "America/Argentina/Buenos_Aires America/Buenos_Aires=-14028,-15408,-14400,-10800d,-7200d,-10800;-138aaic.1 " ++
      "db2bqc.2 5iv8k0.3 67zw0.2 a4w40.3 73h80.2 cls40.3 66580.2 cls40.3 66580.2 cls40.3 66580.2 " ++
      "cls40.3 67zw0.2 cls40.3 66580.2 cls40.3 66580.2 cls40.3 66580.2 cls40.3 67zw0.2 6a040.3 hy7w0.2 " ++
      "6a040.3 xovw0.2 3uys0.3 18nbw0.2 b0dg0.3 8ve2k0.2 3uys0.3 3yik0.2 bqas0.3 71mk0.2 bqas0.3 " ++
      "71mk0.2 bqas0.3 8ovw0.2 9d440.3 9px80.2 9d440.3 9cyk0.2 9d440.5 28t6k0.4 51ek0.5 7m2qs0.4 " ++
      "4tzw0.5 biw40.4 776k0.5 bvus0.4 6u7w0.5 bvus0.4 6u7w0.5 bvus0.4 776k0.5 3fidg0.3 7thc0.5 430lc0.4 " ++
      "3yik0.5 b5xg0.4 7k580.5 f2123j.5;<-03>3",
    "America/Argentina/Catamarca America/Argentina/ComodRivadavia America/Catamarca=-15788,-15408,-14400,-10800d,-7200d,-1080" ++
      "0;-138a95g.1 db2adg.2 5iv8k0.3 67zw0.2 a4w40.3 73h80.2 cls40.3 66580.2 cls40.3 66580.2 cls40.3 " ++
      "66580.2 cls40.3 67zw0.2 cls40.3 66580.2 cls40.3 66580.2 cls40.3 66580.2 cls40.3 67zw0.2 6a040.3 " ++
      "hy7w0.2 6a040.3 xovw0.2 3uys0.3 18nbw0.2 b0dg0.3 8ve2k0.2 3uys0.3 3yik0.2 bqas0.3 71mk0.2 " ++
      "bqas0.3 71mk0.2 bqas0.3 8ovw0.2 9d440.3 9px80.2 9d440.3 9cyk0.2 9d440.5 28t6k0.4 51ek0.5 7m2qs0.4 " ++
      "4tzw0.5 biw40.4 776k0.5 bvus0.4 6u7w0.2 bvxk0.4 6u540.5 bvus0.4 776k0.5 3fidg0.3 7thc0.5 27s800.2 " ++
      "z9g0.5 1u93w0.4 3yik0.5 fkr4rj.5;<-03>3",
    "America/Argentina/Cordoba America/Cordoba America/Rosario=-15408,-15408,-14400,-10800d,-7200d,-10800;-138a9g0.1 " ++
      "db2ao0.2 5iv8k0.3 67zw0.2 a4w40.3 73h80.2 cls40.3 66580.2 cls40.3 66580.2 cls40.3 66580.2 " ++
      "cls40.3 67zw0.2 cls40.3 66580.2 cls40.3 66580.2 cls40.3 66580.2 cls40.3 67zw0.2 6a040.3 hy7w0.2 " ++
      "6a040.3 xovw0.2 3uys0.3 18nbw0.2 b0dg0.3 8ve2k0.2 3uys0.3 3yik0.2 bqas0.3 71mk0.2 bqas0.3 " ++
      "71mk0.2 bqas0.3 8ovw0.2 9d440.3 9px80.2 9d440.3 9cyk0.2 9d440.5 28t6k0.4 51ek0.5 7m2qs0.4 " ++
      "4tzw0.5 biw40.4 776k0.5 bvus0.4 6u7w0.2 bvxk0.4 6u540.5 bvus0.4 776k0.5 3fidg0.3 7thc0.5 430lc0.4 " ++
      "3yik0.5 b5xg0.4 7k580.5 f2123j.5;<-03>3",
    "America/Argentina/Jujuy America/Jujuy=-15672,-15408,-14400,-10800d,-7200d,-10800;-138a98o.1 " ++
      "db2ago.2 5iv8k0.3 67zw0.2 a4w40.3 73h80.2 cls40.3 66580.2 cls40.3 66580.2 cls40.3 66580.2 " ++
      "cls40.3 67zw0.2 cls40.3 66580.2 cls40.3 66580.2 cls40.3 66580.2 cls40.3 67zw0.2 6a040.3 hy7w0.2 " ++
      "6a040.3 xovw0.2 3uys0.3 18nbw0.2 b0dg0.3 8ve2k0.2 3uys0.3 3yik0.2 bqas0.3 71mk0.2 bqas0.3 " ++
      "71mk0.2 bqas0.3 8ovw0.2 9d440.3 9px80.2 9d440.3 9cyk0.2 9d440.5 28t6k0.4 51ek0.5 7m2qs0.4 " ++
      "4tzw0.5 biw40.4 776k0.2 c8w80.3 776k0.2 ag040.4 7k2g0.5 bvus0.4 776k0.5 3fidg0.3 7thc0.5 430lc0.4 " ++
      "3yik0.5 fkr4rj.5;<-03>3",
    "America/Argentina/La_Rioja=-16044,-15408,-14400,-10800d,-7200d,-10800;-138a8yc.1 db2a6c.2 " ++
      "5iv8k0.3 67zw0.2 a4w40.3 73h80.2 cls40.3 66580.2 cls40.3 66580.2 cls40.3 66580.2 cls40.3 67zw0.2 " ++
      "cls40.3 66580.2 cls40.3 66580.2 cls40.3 66580.2 cls40.3 67zw0.2 6a040.3 hy7w0.2 6a040.3 xovw0.2 " ++
      "3uys0.3 18nbw0.2 b0dg0.3 8ve2k0.2 3uys0.3 3yik0.2 bqas0.3 71mk0.2 bqas0.3 71mk0.2 bqas0.3 " ++
      "8ovw0.2 9d440.3 9px80.2 9d440.3 9cyk0.2 9d440.5 28t6k0.4 51ek0.5 7m2qs0.4 4tzw0.5 biw40.4 " ++
      "776k0.5 bvus0.4 6qik0.2 3g880.5 8jbw0.4 6u7w0.5 bvus0.4 776k0.5 3fidg0.3 7thc0.5 27s800.2 " ++
      "z9g0.5 1u93w0.4 3yik0.5 fkr4rj.5;<-03>3",
    "America/Argentina/Mendoza America/Mendoza=-16516,-15408,-14400,-10800d,-7200d,-10800;-138a8l8.1 " ++
      "db29t8.2 5iv8k0.3 67zw0.2 a4w40.3 73h80.2 cls40.3 66580.2 cls40.3 66580.2 cls40.3 66580.2 " ++
      "cls40.3 67zw0.2 cls40.3 66580.2 cls40.3 66580.2 cls40.3 66580.2 cls40.3 67zw0.2 6a040.3 hy7w0.2 " ++
      "6a040.3 xovw0.2 3uys0.3 18nbw0.2 b0dg0.3 8ve2k0.2 3uys0.3 3yik0.2 bqas0.3 71mk0.2 bqas0.3 " ++
      "71mk0.2 bqas0.3 8ovw0.2 9d440.3 9px80.2 9d440.3 9cyk0.2 9d440.5 28t6k0.4 51ek0.5 7m2qs0.4 " ++
      "4tzw0.5 biw40.4 776k0.2 bktk0.3 71mk0.2 bqas0.3 73h80.2 bvus0.4 773s0.5 3fidg0.3 7thc0.5 27bk00.2 " ++
      "6hes0.5 1p7mk0.4 3yik0.5 fkr4rj.5;<-03>3",
    "America/Argentina/Rio_Gallegos=-16612,-15408,-14400,-10800d,-7200d,-10800;-138a8ik.1 db29qk.2 " ++
      "5iv8k0.3 67zw0.2 a4w40.3 73h80.2 cls40.3 66580.2 cls40.3 66580.2 cls40.3 66580.2 cls40.3 67zw0.2 " ++
      "cls40.3 66580.2 cls40.3 66580.2 cls40.3 66580.2 cls40.3 67zw0.2 6a040.3 hy7w0.2 6a040.3 xovw0.2 " ++
      "3uys0.3 18nbw0.2 b0dg0.3 8ve2k0.2 3uys0.3 3yik0.2 bqas0.3 71mk0.2 bqas0.3 71mk0.2 bqas0.3 " ++
      "8ovw0.2 9d440.3 9px80.2 9d440.3 9cyk0.2 9d440.5 28t6k0.4 51ek0.5 7m2qs0.4 4tzw0.5 biw40.4 " ++
      "776k0.5 bvus0.4 6u7w0.5 bvus0.4 6u7w0.5 bvus0.4 776k0.5 3fidg0.3 7thc0.5 27s800.2 z9g0.5 1u93w0.4 " ++
      "3yik0.5 fkr4rj.5;<-03>3",
    "America/Argentina/Salta=-15700,-15408,-14400,-10800d,-7200d,-10800;-138a97w.1 db2afw.2 5iv8k0.3 " ++
      "67zw0.2 a4w40.3 73h80.2 cls40.3 66580.2 cls40.3 66580.2 cls40.3 66580.2 cls40.3 67zw0.2 cls40.3 " ++
      "66580.2 cls40.3 66580.2 cls40.3 66580.2 cls40.3 67zw0.2 6a040.3 hy7w0.2 6a040.3 xovw0.2 3uys0.3 " ++
      "18nbw0.2 b0dg0.3 8ve2k0.2 3uys0.3 3yik0.2 bqas0.3 71mk0.2 bqas0.3 71mk0.2 bqas0.3 8ovw0.2 " ++
      "9d440.3 9px80.2 9d440.3 9cyk0.2 9d440.5 28t6k0.4 51ek0.5 7m2qs0.4 4tzw0.5 biw40.4 776k0.5 " ++
      "bvus0.4 6u7w0.2 bvxk0.4 6u540.5 bvus0.4 776k0.5 3fidg0.3 7thc0.5 430lc0.4 3yik0.5 fkr4rj.5;<-03>3",
    "America/Argentina/San_Juan=-16444,-15408,-14400,-10800d,-7200d,-10800;-138a8n8.1 db29v8.2 " ++
      "5iv8k0.3 67zw0.2 a4w40.3 73h80.2 cls40.3 66580.2 cls40.3 66580.2 cls40.3 66580.2 cls40.3 67zw0.2 " ++
      "cls40.3 66580.2 cls40.3 66580.2 cls40.3 66580.2 cls40.3 67zw0.2 6a040.3 hy7w0.2 6a040.3 xovw0.2 " ++
      "3uys0.3 18nbw0.2 b0dg0.3 8ve2k0.2 3uys0.3 3yik0.2 bqas0.3 71mk0.2 bqas0.3 71mk0.2 bqas0.3 " ++
      "8ovw0.2 9d440.3 9px80.2 9d440.3 9cyk0.2 9d440.5 28t6k0.4 51ek0.5 7m2qs0.4 4tzw0.5 biw40.4 " ++
      "776k0.5 bvus0.4 6qik0.2 3g880.5 8jbw0.4 6u7w0.5 bvus0.4 776k0.5 3fidg0.3 7thc0.5 27qdc0.2 " ++
      "2txg0.5 1sgak0.4 3yik0.5 fkr4rj.5;<-03>3",
    "America/Argentina/San_Luis=-15924,-15408,-14400,-10800d,-7200d,-10800,-10800d;-138a91o.1 db2a9o.2 " ++
      "5iv8k0.3 67zw0.2 a4w40.3 73h80.2 cls40.3 66580.2 cls40.3 66580.2 cls40.3 66580.2 cls40.3 67zw0.2 " ++
      "cls40.3 66580.2 cls40.3 66580.2 cls40.3 66580.2 cls40.3 67zw0.2 6a040.3 hy7w0.2 6a040.3 xovw0.2 " ++
      "3uys0.3 18nbw0.2 b0dg0.3 8ve2k0.2 3uys0.3 3yik0.2 bqas0.3 71mk0.2 bqas0.3 71mk0.2 bqas0.3 " ++
      "8ovw0.2 9d440.3 9px80.2 9d440.3 9cyk0.2 9d440.5 28t6k0.4 51ek0.5 7m2qs0.4 4tzw0.5 biw40.4 " ++
      "7pp80.2 b2aw0.3 71mk0.2 4qg40.5 4conw0.3 7thc0.5 27qdc0.2 2txg0.5 1sgak0.4 14nw0.3 2gys0.2 " ++
      "b5xg0.3 7k580.2 b5xg0.5 er80jj.5;<-03>3",
    "America/Argentina/Tucuman=-15652,-15408,-14400,-10800d,-7200d,-10800;-138a998.1 db2ah8.2 5iv8k0.3 " ++
      "67zw0.2 a4w40.3 73h80.2 cls40.3 66580.2 cls40.3 66580.2 cls40.3 66580.2 cls40.3 67zw0.2 cls40.3 " ++
      "66580.2 cls40.3 66580.2 cls40.3 66580.2 cls40.3 67zw0.2 6a040.3 hy7w0.2 6a040.3 xovw0.2 3uys0.3 " ++
      "18nbw0.2 b0dg0.3 8ve2k0.2 3uys0.3 3yik0.2 bqas0.3 71mk0.2 bqas0.3 71mk0.2 bqas0.3 8ovw0.2 " ++
      "9d440.3 9px80.2 9d440.3 9cyk0.2 9d440.5 28t6k0.4 51ek0.5 7m2qs0.4 4tzw0.5 biw40.4 776k0.5 " ++
      "bvus0.4 6u7w0.2 bvxk0.4 6u540.5 bvus0.4 776k0.5 3fidg0.3 7thc0.5 27s800.2 mas0.5 1um2k0.4 " ++
      "3yik0.5 b5xg0.4 7k580.5 f2123j.5;<-03>3",
    "America/Argentina/Ushuaia=-16392,-15408,-14400,-10800d,-7200d,-10800;-138a8oo.1 db29wo.2 5iv8k0.3 " ++
      "67zw0.2 a4w40.3 73h80.2 cls40.3 66580.2 cls40.3 66580.2 cls40.3 66580.2 cls40.3 67zw0.2 cls40.3 " ++
      "66580.2 cls40.3 66580.2 cls40.3 66580.2 cls40.3 67zw0.2 6a040.3 hy7w0.2 6a040.3 xovw0.2 3uys0.3 " ++
      "18nbw0.2 b0dg0.3 8ve2k0.2 3uys0.3 3yik0.2 bqas0.3 71mk0.2 bqas0.3 71mk0.2 bqas0.3 8ovw0.2 " ++
      "9d440.3 9px80.2 9d440.3 9cyk0.2 9d440.5 28t6k0.4 51ek0.5 7m2qs0.4 4tzw0.5 biw40.4 776k0.5 " ++
      "bvus0.4 6u7w0.5 bvus0.4 6u7w0.5 bvus0.4 776k0.5 3fidg0.3 7thc0.5 27oio0.2 12ys0.5 1u93w0.4 " ++
      "3yik0.5 fkr4rj.5;<-03>3",
    "America/Aruba=-16824,-16200,-14400;-u7lcco.1 rlo7io.2;AST4",
    "America/Asuncion=-13840,-13840,-14400,-10800,-10800d;-15r0ynk.1 lsruo0.2 ldwofk.3 s4vw0.2 " ++
      "s6w40.4 7tek0.2 b0dg0.4 7rjw0.2 b0dg0.4 7rjw0.2 b0dg0.4 9cyk0.2 9eys0.4 9et80.2 9eys0.4 9cyk0.2 " ++
      "9eys0.4 9cyk0.2 9eys0.4 9cyk0.2 9eys0.4 9et80.2 9eys0.4 9cyk0.2 9eys0.4 9cyk0.2 9eys0.4 9cyk0.2 " ++
      "9eys0.4 9et80.2 9eys0.4 9cyk0.2 ahus0.4 8a2k0.2 9eys0.4 9cyk0.2 9o840.4 7k580.2 b7s40.4 93p80.2 " ++
      "9gtg0.4 7nuk0.2 b42s0.4 7lzw0.2 b5xg0.4 7tek0.2 b9ms0.4 776k0.2 biw40.4 7k580.2 b5xg0.4 7x3w0.2 " ++
      "asys0.4 7x3w0.2 asys0.4 7x3w0.2 b5xg0.4 9cyk0.2 7kas0.4 b5rw0.2 7x9g0.4 ast80.2 a31g0.4 7k580.2 " ++
      "b5xg0.4 7k580.2 b5xg0.4 7k580.2 biw40.4 776k0.2 biw40.4 776k0.2 biw40.4 8zzw0.2 905g0.4 9px80.2 " ++
      "905g0.4 9px80.2 9d440.4 8n180.2 a31g0.4 8n180.2 a31g0.4 8n180.2 a31g0.4 8zzw0.2 9q2s0.4 8zzw0.2 " ++
      "9q2s0.4 8zzw0.2 a31g0.4 8n180.2 a31g0.4 8n180.2 a31g0.4 8zzw0.2 9q2s0.4 8zzw0.2 9q2s0.4 8zzw0.2 " ++
      "9q2s0.4 8zzw0.2 a31g0.4 gl80.3 6x6dzj.3;<-03>3",
    "America/Atikokan=-21988,-18000d,-21600,-18000d,-18000d,-18000;-1353b18.2 c5efx8.1 a2vw0.2 " ++
      "bfxjw0.1 pmdk0.3 1tz8c0.4 2dsw0.5;EST5",
    "America/Bahia=-9244,-7200d,-10800;-t85kv8.2 99kaf8.1 9a9c0.2 9io40.1 99980.2 8p65g0.1 6zuo0.2 " ++
      "bs2o0.1 67zw0.2 cjxg0.1 69uk0.2 cjxg0.1 4ml80.2 5mf440.1 49mk0.2 haas0.1 316k0.2 cls40.1 4ml80.2 " ++
      "cls40.1 66580.2 cls40.1 67zw0.2 981s40.1 6u7w0.2 biw40.1 5rbw0.2 d0lg0.1 5ed80.2 cyqs0.1 5ed80.2 " ++
      "dbpg0.1 64ak0.2 cyqs0.1 64ak0.2 cls40.1 5rbw0.2 dbpg0.1 51ek0.2 dbpg0.1 6h980.2 c8tg0.1 6h980.2 " ++
      "c8tg0.1 64ak0.2 c8tg0.1 6u7w0.2 bxpg0.1 7iak0.2 biw40.1 6u7w0.2 biw40.1 7k580.2 biw40.1 6u7w0.2 " ++
      "c8tg0.1 6h980.2 dbpg0.1 5ed80.2 4irc40.1 6u7w0.2 dikrfj.2;<-03>3",
    "America/Bahia_Banderas=-25260,-25200,-21600,-21600d,-25200,-18000d,-21600;-p1u4k0.1 2u5s00.2 " ++
      "1si580.4 8jhg0.3 7x3w0.4 9eys0.2 591h80.4 s5qoc0.3 afuk0.4 8a840.3 afuk0.4 8a840.3 afuk0.4 " ++
      "8a840.3 ast80.4 7x9g0.3 ast80.4 9q2s0.3 7k580.4 9q2s0.3 afuk0.4 8a840.3 afuk0.4 8a840.3 ast80.4 " ++
      "7x9g0.3 ast80.4 7x9g0.3 ast80.4 7x9g0.3 ast80.4 8a840.3 afuk0.4 8a840.3 afuk0.4 8a840.5 asqg0.2 " ++
      "7x9g0.5 ast80.2 7x9g0.5 ast80.2 8a840.5 afuk0.2 8a840.5 afuk0.2 8a840.5 afuk0.2 8a840.5 ast80.2 " ++
      "7x9g0.5 ast80.2 7x9g0.5 ast80.2 8a840.5 afuk0.2 8a840.5 afuk0.2 8a840.5 ast80.2 7x9g0.5 ast80.2;CST6",
    "America/Barbados=-14309,-10800d,-14400,-14400,-12600d,-10800d;-ug8iaj.3 fzq06j.1 6w840.2 cjrw0.1 " ++
      "6hes0.2 b7mk0.4 7ves0.2 h3dpc0.5 5rbw0.3 a31g0.5 8n180.3 a31g0.5 8n180.3 ag040.5 84ik0.3;AST4",
    "America/Belem=-11636,-7200d,-10800;-t85j0s.2 99k8ks.1 9a9c0.2 9io40.1 99980.2 8p65g0.1 6zuo0.2 " ++
      "bs2o0.1 67zw0.2 cjxg0.1 69uk0.2 cjxg0.1 4ml80.2 5mf440.1 49mk0.2 haas0.1 316k0.2 cls40.1 4ml80.2 " ++
      "cls40.1 66580.2 cls40.1 67zw0.2 981s40.1 6u7w0.2 biw40.1 5rbw0.2 d0lg0.1 5ed80.2 q2ha3j.2;<-03>3",
    "America/Belize=-21168,-19800d,-21600,-18000d,-18000d,-18000d;-u52ic0.2 3edkc0.1 6ham0.2 c8s20.1 " ++
      "6u9a0.2 bvte0.1 6u9a0.2 bvte0.1 6u9a0.2 c8s20.1 6ham0.2 c8s20.1 6ham0.2 c8s20.1 6u9a0.2 bvte0.1 " ++
      "6u9a0.2 bvte0.1 6u9a0.2 bvte0.1 6u9a0.2 c8s20.1 6ham0.2 c8s20.1 6ham0.2 c8s20.1 6u9a0.2 bvte0.1 " ++
      "6u9a0.2 bvte0.1 6u9a0.2 c8s20.1 6ham0.2 c8s20.1 6ham0.2 c8s20.1 6ham0.2 c8s20.1 6u9a0.2 bvte0.1 " ++
      "6u9a0.2 bvte0.1 6u9a0.2 c8s20.1 6ham0.2 c8s20.1 6ham0.2 c8s20.1 6u9a0.2 6uc20.3 1mtz80.4 6c8o0.2 " ++
      "xulg0.1 6u9a0.2 bvte0.1 6u9a0.2 bvte0.1 6u9a0.2 c8s20.1 6ham0.2 c8s20.1 6ham0.2 c8s20.1 6u9a0.2 " ++
      "bvte0.1 6u9a0.2 bvte0.1 6u9a0.2 bvte0.1 6u9a0.2 c8s20.1 6ham0.2 c8s20.1 6ham0.2 c8s20.1 6u9a0.2 " ++
      "bvte0.1 6u9a0.2 bvte0.1 6u9a0.2 c8s20.1 6ham0.2 c8s20.1 6ham0.2 c8s20.1 6ham0.2 c8s20.1 6u9a0.2 " ++
      "bvte0.1 6u9a0.2 bvte0.1 6u9a0.2 c8s20.1 6ham0.2 319de0.5 3e580.2 4mcys0.5 2vmk0.2;CST6",
    "America/Blanc-Sablon=-13708,-10800d,-14400,-10800d,-10800d;-18vs838.2 hw37f8.1 a2vw0.2 c5jxg0.3 " ++
      "1tzdw0.4 2dnc0.2;AST4",
    "America/Boa_Vista=-14560,-10800d,-14400;-t85grk.2 99k93k.1 9a9c0.2 9io40.1 99980.2 8p65g0.1 " ++
      "6zuo0.2 bs2o0.1 67zw0.2 cjxg0.1 69uk0.2 cjxg0.1 4ml80.2 5mf440.1 49mk0.2 haas0.1 316k0.2 cls40.1 " ++
      "4ml80.2 cls40.1 66580.2 cls40.1 67zw0.2 981s40.1 6u7w0.2 biw40.1 5rbw0.2 d0lg0.1 5ed80.2 62xk40.1 " ++
      "7k580.2 biw40.1 cvw0.2 jg3pzj.2;<-04>4",
    "America/Bogota=-17776,-17776,-14400d,-18000;-18s2sy8.1 g0p400.3 14f1hi8.2 eefw0.3 nghsjj.3;<-05>5",
    "America/Boise=-27889,-25200d,-28800,-28800,-21600d,-21600d,-25200,-21600d;-18y0gg0.3 hxltk0.1 " ++
      "ast80.2 7x9g0.1 ast80.2 1um840.6 9s7jw0.4 1tz5k0.5 2dvo0.6 b9gdg0.7 9cyk0.6 9d440.7 9cyk0.6 " ++
      "9d440.7 9cyk0.6 9d440.7 9cyk0.6 9d440.7 9px80.6 9d440.7 9cyk0.6 9d440.7 9cyk0.6 51k40.7 doik0.6 " ++
      "64g40.7 clmk0.6 9d440.7 9px80.6 905g0.7 9px80.6 9d440.7 9cyk0.6 9d440.7 9cyk0.6 9d440.7 9cyk0.6 " ++
      "9d440.7 9cyk0.6 9d440.7 9px80.6 905g0.7 9px80.6 9d440.7 9cyk0.6 9d440.7 9cyk0.6 9d440.7 9cyk0.6 " ++
      "8a840.7 afuk0.6 8a840.7 ast80.6 7x9g0.7 ast80.6 7x9g0.7 ast80.6 8a840.7 afuk0.6 8a840.7 afuk0.6 " ++
      "8a840.7 ast80.6 7x9g0.7 ast80.6 7x9g0.7 ast80.6 8a840.7 afuk0.6 8a840.7 afuk0.6 8a840.7 afuk0.6 " ++
      "8a840.7 ast80.6 7x9g0.7 ast80.6 7x9g0.7 ast80.6 8a840.7 afuk0.6 8a840.7 afuk0.6 8a840.7 ast80.6 " ++
      "7x9g0.7 ast80.6 7x9g0.7 ast80.6 6udg0.7 c8nw0.6 6hes0.7 c8nw0.6 6hes0.7 c8nw0.6 6udg0.7 c8nw0.6 " ++
      "6hes0.7 c8nw0.6 6hes0.7 c8nw0.6 6hes0.7 c8nw0.6 6hes0.7 c8nw0.6 6hes0.7 c8nw0.6 6udg0.7 c8nw0.6 " ++
      "6hes0.7 c8nw0.6 6hes0.7 c8nw0.6 6hes0.7 c8nw0.6 6hes0.7 c8nw0.6 6udg0.7 c8nw0.6 6hes0.7 c8nw0.6 " ++
      "6hes0.7 c8nw0.6 6hes0.7 c8nw0.6 6hes0.7 c8nw0.6 6hes0.7 c8nw0.6 6udg0.7 c8nw0.6 6hes0.7 c8nw0.6 " ++
      "6hes0.7 c8nw0.6 6hes0.7 c8nw0.6 6hes0.7 c8nw0.6 6udg0.7 c8nw0.6 6hes0.7 c8nw0.6 6hes0.7 c8nw0.6 " ++
      "6hes0.7 c8nw0.6 6hes0.7 c8nw0.6 6hes0.7 c8nw0.6;MST7MDT,M3.2.0,M11.1.0",
    "America/Cambridge_Bay=0,-21600d,-21600d,-25200,-21600d,-18000d,-21600,-18000,-21600d,-25200;-q3gdc0.3 " ++
      "bjeec0.1 1tz5k0.2 2dvo0.3 dvfpg0.4 9cyk0.3 9d440.4 9cyk0.3 9d440.4 9cyk0.3 9d440.4 9cyk0.3 " ++
      "9d440.4 9px80.3 905g0.4 9px80.3 9d440.4 9cyk0.3 9d440.4 9cyk0.3 9d440.4 9cyk0.3 9d440.4 9cyk0.3 " ++
      "9d440.4 9px80.3 905g0.4 9px80.3 9d440.4 9cyk0.3 9d440.4 9cyk0.3 9d440.4 9cyk0.3 8a840.4 afuk0.3 " ++
      "8a840.4 ast80.3 7x9g0.4 ast80.3 7x9g0.4 ast80.3 8a840.4 afuk0.3 8a840.4 afuk0.3 8a840.4 ast80.3 " ++
      "7x9g0.4 ast80.3 7x9g0.4 ast80.3 8a840.4 afuk0.3 8a840.4 afuk0.3 8a840.4 afuk0.3 8a840.4 ast80.6 " ++
      "7x6o0.5 ast80.7 ct40.6 7kj40.4 ast80.3 8a840.4 afuk0.3 8a840.4 afuk0.3 8a840.4 ast80.3 7x9g0.4 " ++
      "ast80.3 7x9g0.4 ast80.3 6udg0.4 c8nw0.3 6hes0.4 c8nw0.3 6hes0.4 c8nw0.3 6udg0.4 c8nw0.3 6hes0.4 " ++
      "c8nw0.3 6hes0.4 c8nw0.3 6hes0.4 c8nw0.3 6hes0.4 c8nw0.3 6hes0.4 c8nw0.3 6udg0.4 c8nw0.3 6hes0.4 " ++
      "c8nw0.3 6hes0.4 c8nw0.3 6hes0.4 c8nw0.3 6hes0.4 c8nw0.3 6udg0.4 c8nw0.3 6hes0.4 c8nw0.3 6hes0.4 " ++
      "c8nw0.3 6hes0.4 c8nw0.3 6hes0.4 c8nw0.3 6hes0.4 c8nw0.3 6udg0.4 c8nw0.3 6hes0.4 c8nw0.3 6hes0.4 " ++
      "c8nw0.3 6hes0.4 c8nw0.3 6hes0.4 c8nw0.3 6udg0.4 c8nw0.3 6hes0.4 c8nw0.3 6hes0.4 c8nw0.3 6hes0.4 " ++
      "c8nw0.3 6hes0.4 c8nw0.3 6hes0.4 c8nw0.3;MST7MDT,M3.2.0,M11.1.0",
    "America/Campo_Grande=-13108,-10800d,-14400;-t85hvw.2 99ka7w.1 9a9c0.2 9io40.1 99980.2 8p65g0.1 " ++
      "6zuo0.2 bs2o0.1 67zw0.2 cjxg0.1 69uk0.2 cjxg0.1 4ml80.2 5mf440.1 49mk0.2 haas0.1 316k0.2 cls40.1 " ++
      "4ml80.2 cls40.1 66580.2 cls40.1 67zw0.2 981s40.1 6u7w0.2 biw40.1 5rbw0.2 d0lg0.1 5ed80.2 cyqs0.1 " ++
      "5ed80.2 dbpg0.1 64ak0.2 cyqs0.1 64ak0.2 cls40.1 5rbw0.2 dbpg0.1 51ek0.2 dbpg0.1 6h980.2 c8tg0.1 " ++
      "6h980.2 c8tg0.1 64ak0.2 c8tg0.1 6u7w0.2 bxpg0.1 7iak0.2 biw40.1 6u7w0.2 biw40.1 7k580.2 biw40.1 " ++
      "6u7w0.2 c8tg0.1 6h980.2 dbpg0.1 5ed80.2 cls40.1 64ak0.2 dfes0.1 5nmk0.2 c8tg0.1 6h980.2 dbpg0.1 " ++
      "5rbw0.2 bvus0.1 6h980.2 cls40.1 64ak0.2 cls40.1 6h980.2 c8tg0.1 6h980.2 c8tg0.1 6u7w0.2 c8tg0.1 " ++
      "64ak0.2 cls40.1 64ak0.2 cls40.1 6h980.2 c8tg0.1 6h980.2 c8tg0.1 6h980.2 c8tg0.1 6h980.2 dbpg0.1 " ++
      "5ed80.2 9vi5zj.2;<-04>4",
    "America/Cancun=-20824,-21600,-18000,-18000d,-21600,-14400d,-18000d,-18000;-p1u7c0.1 vb0dk0.2 " ++
      "j8d00.4 6x2wc0.3 afuk0.4 8a840.3 afuk0.2 8a5c0.5 64ak0.3 4bms0.4 8a840.3 ast80.4 7x9g0.3 ast80.4 " ++
      "9q2s0.3 7k580.4 9q2s0.3 afuk0.4 8a840.3 afuk0.4 8a840.3 ast80.4 7x9g0.3 ast80.4 7x9g0.3 ast80.4 " ++
      "7x9g0.3 ast80.4 8a840.3 afuk0.4 8a840.3 afuk0.4 8a840.3 ast80.4 7x9g0.3 ast80.4 7x9g0.3 ast80.4 " ++
      "8a840.3 afuk0.4 8a840.3 afuk0.4 51k40.2;EST5",
    "America/Caracas=-16064,-16060,-16200,-14400;-15r0wxs.1 bjfjzw.2 rlo83w.3 meoxm0.2 4dps00.3 " ++
      "bc2g7j.3;<-04>4",
    "America/Cayenne=-12560,-14400,-10800;-uj7yb4.1 tcw6r4.2 10ovsjj.2;<-03>3",
    "America/Cayman=-19532,-18430,-18000;-15r0u9g.1 biv5te.2;EST5",
    "America/Chicago US/Central=-21036,-18000d,-21600,-21600,-18000,-18000d,-18000d,-21600;-18y0m00.3 " ++
      "hxltk0.1 ast80.2 7x9g0.1 ast80.2 bvus0.1 776k0.2 7kas0.1 b5rw0.2 9d440.1 7k580.2 b5xg0.1 7x3w0.2 " ++
      "asys0.1 7x3w0.2 asys0.1 7x3w0.2 asys0.1 7x3w0.2 asys0.1 7x3w0.2 b5xg0.1 7x3w0.2 asys0.1 7x3w0.2 " ++
      "asys0.1 7x3w0.2 asys0.1 7x3w0.2 asys0.1 7x3w0.2 b5xg0.1 7k580.2 b5xg0.1 7x3w0.2 asys0.1 7x3w0.2 " ++
      "7x9g0.4 dbjw0.2 8a840.1 7x3w0.2 asys0.1 7x3w0.2 b5xg0.1 7k580.2 b5xg0.1 7x3w0.2 asys0.1 7x3w0.2 " ++
      "6w840.5 1tz8c0.6 2dsw0.2 asys0.1 7x3w0.2 asys0.1 7x3w0.2 asys0.1 7x3w0.2 asys0.1 7x3w0.2 b5xg0.1 " ++
      "7k580.2 b5xg0.1 7x3w0.2 asys0.1 7x3w0.2 asys0.1 7x3w0.2 asys0.1 7x3w0.2 asys0.1 9px80.2 9d440.1 " ++
      "9cyk0.2 9d440.1 9cyk0.2 9d440.1 9cyk0.2 9d440.1 9cyk0.2 9d440.1 9px80.2 9d440.1 9cyk0.2 9d440.1 " ++
      "9cyk0.2 9d440.1 9cyk0.2 9d440.1 9cyk0.2 9d440.1 9px80.2 905g0.1 9px80.2 9d440.1 9cyk0.2 9d440.1 " ++
      "9cyk0.2 9d440.1 9cyk0.2 9d440.1 9cyk0.2 9d440.1 9px80.2 9d440.1 9cyk0.2 9d440.1 9cyk0.2 3lpg0.1 " ++
      "f4d80.2 64g40.1 clmk0.2 9d440.1 9px80.2 905g0.1 9px80.2 9d440.1 9cyk0.2 9d440.1 9cyk0.2 9d440.1 " ++
      "9cyk0.2 9d440.1 9cyk0.2 9d440.1 9px80.2 905g0.1 9px80.2 9d440.1 9cyk0.2 9d440.1 9cyk0.2 9d440.1 " ++
      "9cyk0.2 8a840.1 afuk0.2 8a840.1 ast80.2 7x9g0.1 ast80.2 7x9g0.1 ast80.2 8a840.1 afuk0.2 8a840.1 " ++
      "afuk0.2 8a840.1 ast80.2 7x9g0.1 ast80.2 7x9g0.1 ast80.2 8a840.1 afuk0.2 8a840.1 afuk0.2 8a840.1 " ++
      "afuk0.2 8a840.1 ast80.2 7x9g0.1 ast80.2 7x9g0.1 ast80.2 8a840.1 afuk0.2 8a840.1 afuk0.2 8a840.1 " ++
      "ast80.2 7x9g0.1 ast80.2 7x9g0.1 ast80.2 6udg0.1 c8nw0.2 6hes0.1 c8nw0.2 6hes0.1 c8nw0.2 6udg0.1 " ++
      "c8nw0.2 6hes0.1 c8nw0.2 6hes0.1 c8nw0.2 6hes0.1 c8nw0.2 6hes0.1 c8nw0.2 6hes0.1 c8nw0.2 6udg0.1 " ++
      "c8nw0.2 6hes0.1 c8nw0.2 6hes0.1 c8nw0.2 6hes0.1 c8nw0.2 6hes0.1 c8nw0.2 6udg0.1 c8nw0.2 6hes0.1 " ++
      "c8nw0.2 6hes0.1 c8nw0.2 6hes0.1 c8nw0.2 6hes0.1 c8nw0.2 6hes0.1 c8nw0.2 6udg0.1 c8nw0.2 6hes0.1 " ++
      "c8nw0.2 6hes0.1 c8nw0.2 6hes0.1 c8nw0.2 6hes0.1 c8nw0.2 6udg0.1 c8nw0.2 6hes0.1 c8nw0.2 6hes0.1 " ++
      "c8nw0.2 6hes0.1 c8nw0.2 6hes0.1 c8nw0.2 6hes0.1 c8nw0.2;CST6CDT,M3.2.0,M11.1.0",
    "America/Chihuahua=-25460,-25200,-21600,-21600d,-25200,-18000d,-21600d,-21600;-p1u4k0.1 2u5s00.2 " ++
      "1si580.4 8jhg0.3 7x3w0.4 9eys0.2 xes2s0.5 afuk0.2 8a840.5 afuk0.2 8aaw0.3 afuk0.4 8a840.3 " ++
      "ast80.4 7x9g0.3 ast80.4 9q2s0.3 7k580.4 9q2s0.3 afuk0.4 8a840.3 afuk0.4 8a840.3 ast80.4 7x9g0.3 " ++
      "ast80.4 7x9g0.3 ast80.4 7x9g0.3 ast80.4 8a840.3 afuk0.4 8a840.3 afuk0.4 8a840.3 ast80.4 7x9g0.3 " ++
      "ast80.4 7x9g0.3 ast80.4 8a840.3 afuk0.4 8a840.3 afuk0.4 8a840.3 afuk0.4 8a840.3 ast80.4 7x9g0.3 " ++
      "ast80.4 7x9g0.3 ast80.4 8a840.3 afuk0.4 8a840.3 afuk0.4 8a840.3 ast80.4 7x9g0.3 ast80.2;CST6",
    "America/Ciudad_Juarez=-25556,-25200,-21600,-21600d,-25200,-18000d,-21600d;-p1u4k0.1 2u5s00.2 " ++
      "1si580.4 8jhg0.3 7x3w0.4 9eys0.2 xes2s0.5 afuk0.2 8a840.5 afuk0.2 8aaw0.3 afuk0.4 8a840.3 " ++
      "ast80.4 7x9g0.3 ast80.4 9q2s0.3 7k580.4 9q2s0.3 afuk0.4 8a840.3 afuk0.4 8a840.3 ast80.4 7x9g0.3 " ++
      "ast80.4 7x9g0.3 ast80.4 7x9g0.3 ast80.4 8a840.3 afuk0.4 8a840.3 afuk0.4 77c40.3 c8nw0.4 6hes0.3 " ++
      "c8nw0.4 6hes0.3 c8nw0.4 6hes0.3 c8nw0.4 6hes0.3 c8nw0.4 6hes0.3 c8nw0.4 6udg0.3 c8nw0.4 6hes0.3 " ++
      "c8nw0.4 6hes0.3 c8nw0.4 6hes0.3 c8nw0.4 6hes0.3 c8nw0.4 6udg0.3 c8nw0.4 6hes0.3 bvp80.2 1l940.4 " ++
      "594c0.3 c8nw0.4 6hes0.3 c8nw0.4 6hes0.3 c8nw0.4 6hes0.3 c8nw0.4 6udg0.3 c8nw0.4 6hes0.3 c8nw0.4 " ++
      "6hes0.3 c8nw0.4 6hes0.3 c8nw0.4 6hes0.3 c8nw0.4 6udg0.3 c8nw0.4 6hes0.3 c8nw0.4 6hes0.3 c8nw0.4 " ++
      "6hes0.3 c8nw0.4 6hes0.3 c8nw0.4 6hes0.3 c8nw0.4;MST7MDT,M3.2.0,M11.1.0",
    "America/Coral_Harbour America/Panama=-19088,-19176,-18000;-15r0uls.1 9jvmqg.2;EST5",
    "America/Costa_Rica=-20173,-20173,-18000d,-21600;-15r0trn.1 g74lc0.3 ubtl3n.2 51ek0.3 doo40.2 " ++
      "51ek0.3 5jso40.2 8drw0.3 acas0.2 2xh80.3;CST6",
    "America/Coyhaique=-17296,-16965,-18000,-14400,-14400d,-10800d,-14400,-10800;-15r0vzk.1 ag6l2t.2 " ++
      "3dlssr.1 157b79.3 f4e0r.1 49hzb9.4 aye0r.2 7ves0.4 awik0.2 7ves0.4 awik0.2 7ves0.4 awik0.2 " ++
      "7ves0.4 ayd80.2 7ves0.3 534ik0.2 351g0.3 24lbw0.4 b25c0.2 2mg00.3 b73400.5 7k580.6 c8tg0.5 " ++
      "6h980.6 a31g0.5 7x3w0.6 asys0.5 7x3w0.6 b5xg0.5 7k580.6 ag040.5 8a2k0.6 b5xg0.5 7k580.6 b5xg0.5 " ++
      "7x3w0.6 asys0.5 7x3w0.6 asys0.5 7x3w0.6 b5xg0.5 7k580.6 b5xg0.5 7k580.6 b5xg0.5 7x3w0.6 asys0.5 " ++
      "7x3w0.6 asys0.5 7x3w0.6 asys0.5 7x3w0.6 b5xg0.5 7k580.6 b5xg0.5 7k580.6 b5xg0.5 9cyk0.6 9d440.5 " ++
      "7x3w0.6 asys0.5 7x3w0.6 b5xg0.5 7k580.6 9q2s0.5 8zzw0.6 b5xg0.5 7x3w0.6 asys0.5 7x3w0.6 asys0.5 " ++
      "7x3w0.6 asys0.5 7x3w0.6 b5xg0.5 7k580.6 b5xg0.5 8n180.6 a31g0.5 7x3w0.6 a31g0.5 9px80.6 9q2s0.5 " ++
      "7x3w0.6 b5xg0.5 7k580.6 b5xg0.5 7k580.6 b5xg0.5 7k580.6 b5xg0.5 7x3w0.6 asys0.5 7x3w0.6 asys0.5 " ++
      "7x3w0.6 b5xg0.5 7k580.6 b5xg0.5 8n180.6 a31g0.5 7x3w0.6 asys0.5 8zzw0.6 9q2s0.5 ast80.6 5eis0.5 " ++
      "cyl80.6 6hes0.5 c8nw0.6 6udg0.5 bvp80.6 6udg0.5 vonw0.6 4olg0.5 e1h80.6 4olg0.5 e1h80.6 4olg0.5 " ++
      "c8nw0.6 7x9g0.5 ast80.6 7x9g0.5 ast80.6 7x9g0.5 ast80.6 8a840.5 afuk0.6 7x9g0.5 b5rw0.6 7x9g0.5 " ++
      "9xbw0.7 6p5hzj.7;<-03>3",
    "America/Creston=-27964,-25200,-28800,-25200;-18vrx38.1 h39xv8.2 vbus0.1;MST7",
    "America/Cuiaba=-13460,-10800d,-14400;-t85hm4.2 99k9y4.1 9a9c0.2 9io40.1 99980.2 8p65g0.1 6zuo0.2 " ++
      "bs2o0.1 67zw0.2 cjxg0.1 69uk0.2 cjxg0.1 4ml80.2 5mf440.1 49mk0.2 haas0.1 316k0.2 cls40.1 4ml80.2 " ++
      "cls40.1 66580.2 cls40.1 67zw0.2 981s40.1 6u7w0.2 biw40.1 5rbw0.2 d0lg0.1 5ed80.2 cyqs0.1 5ed80.2 " ++
      "dbpg0.1 64ak0.2 cyqs0.1 64ak0.2 cls40.1 5rbw0.2 dbpg0.1 51ek0.2 dbpg0.1 6h980.2 c8tg0.1 6h980.2 " ++
      "c8tg0.1 64ak0.2 c8tg0.1 6u7w0.2 bxpg0.1 7iak0.2 biw40.1 6u7w0.2 biw40.1 7k580.2 biw40.1 6u7w0.2 " ++
      "c8tg0.1 6h980.2 dbpg0.1 5ed80.2 w5hg0.1 5nmk0.2 c8tg0.1 6h980.2 dbpg0.1 5rbw0.2 bvus0.1 6h980.2 " ++
      "cls40.1 64ak0.2 cls40.1 6h980.2 c8tg0.1 6h980.2 c8tg0.1 6u7w0.2 c8tg0.1 64ak0.2 cls40.1 64ak0.2 " ++
      "cls40.1 6h980.2 c8tg0.1 6h980.2 c8tg0.1 6h980.2 c8tg0.1 6h980.2 dbpg0.1 5ed80.2 9vi5zj.2;<-04>4",
    "America/Curacao=-16547,-16200,-14400;-u7lckd.1 rlo7qd.2;AST4",
    "America/Danmarkshavn=-4480,-10800,-10800,-7200d,-7200d,0;-rvusjk.1 x8nx3k.4 8zrk0.2 9d1c0.3 " ++
      "9d1c0.2 9d1c0.3 9d1c0.2 9d1c0.3 9d1c0.2 9d1c0.3 9q000.2 9d1c0.3 9d1c0.2 9d1c0.3 9d1c0.2 9d1c0.3 " ++
      "9d1c0.2 9d1c0.3 9d1c0.2 9d1c0.3 9d1c0.2 9d1c0.3 9q000.2 9d1c0.3 9d1c0.2 9d1c0.3 9d1c0.2 9d1c0.3 " ++
      "9d1c0.2 9d1c0.3 9d1c0.2 9d1c0.3 9d1c0.2 53hk0.5;GMT0",
    "America/Dawson=-33460,-28800d,-32400,-28800d,-28800d,-25200d,-28800,-25200d,-25200;-1079suk.2 " ++
      "97l62k.1 a2vw0.2 asys0.1 882c0.2 bmiwc0.3 1tz000.4 2e180.2 a7n3w0.5 9q000.2 465k00.6 3e2is0.7 " ++
      "9cyk0.6 9d440.7 9cyk0.6 9d440.7 9px80.6 905g0.7 9px80.6 9d440.7 9cyk0.6 9d440.7 9cyk0.6 9d440.7 " ++
      "9cyk0.6 8a840.7 afuk0.6 8a840.7 ast80.6 7x9g0.7 ast80.6 7x9g0.7 ast80.6 8a840.7 afuk0.6 8a840.7 " ++
      "afuk0.6 8a840.7 ast80.6 7x9g0.7 ast80.6 7x9g0.7 ast80.6 8a840.7 afuk0.6 8a840.7 afuk0.6 8a840.7 " ++
      "afuk0.6 8a840.7 ast80.6 7x9g0.7 ast80.6 7x9g0.7 ast80.6 8a840.7 afuk0.6 8a840.7 afuk0.6 8a840.7 " ++
      "ast80.6 7x9g0.7 ast80.6 7x9g0.7 ast80.6 6udg0.7 c8nw0.6 6hes0.7 c8nw0.6 6hes0.7 c8nw0.6 6udg0.7 " ++
      "c8nw0.6 6hes0.7 c8nw0.6 6hes0.7 c8nw0.6 6hes0.7 c8nw0.6 6hes0.7 c8nw0.6 6hes0.7 c8nw0.6 6udg0.7 " ++
      "c8nw0.6 6hes0.7 c8nw0.6 6hes0.7 c8nw0.6 6hes0.7 c8nw0.6 6hes0.7 c8ic0.8;MST7",
    "America/Dawson_Creek=-28856,-25200d,-28800,-25200d,-25200d,-25200;-18vrweg.2 hw36ug.1 a2vw0.2 " ++
      "c5jxg0.3 1tz2s0.4 2dyg0.2 tj1g0.1 7x3w0.2 asys0.1 7x3w0.2 asys0.1 7x3w0.2 b5xg0.1 7k580.2 " ++
      "b5xg0.1 7x3w0.2 asys0.1 7x3w0.2 asys0.1 7x3w0.2 asys0.1 7x3w0.2 asys0.1 7x3w0.2 b5xg0.1 7x3w0.2 " ++
      "asys0.1 7x3w0.2 asys0.1 7x3w0.2 asys0.1 7x3w0.2 asys0.1 7x3w0.2 b5xg0.1 7k580.2 b5xg0.1 9cyk0.2 " ++
      "9d440.1 9cyk0.2 9d440.1 9cyk0.2 9d440.1 9px80.2 905g0.1 9px80.2 9d440.1 9cyk0.2 9d440.1 9cyk0.2 " ++
      "9d440.1 9cyk0.2 9d440.1 9cyk0.2 9d440.1 9px80.2 9d440.1 69uk0.5;MST7",
    "America/Denver America/Shiprock Navajo US/Mountain=-25196,-21600d,-25200,-25200,-21600d,-21600d;-18y0j80.3 " ++
      "hxltk0.1 ast80.2 7x9g0.1 ast80.2 7x9g0.1 b5rw0.2 7kas0.1 2vmk0.2 ataw40.4 1tz5k0.5 2dvo0.2 " ++
      "a7n9g0.1 9px80.2 905g0.1 9px80.2 9d440.1 9cyk0.2 9d440.1 9cyk0.2 9d440.1 9cyk0.2 9d440.1 9cyk0.2 " ++
      "9d440.1 9px80.2 9d440.1 9cyk0.2 9d440.1 9cyk0.2 3lpg0.1 f4d80.2 64g40.1 clmk0.2 9d440.1 9px80.2 " ++
      "905g0.1 9px80.2 9d440.1 9cyk0.2 9d440.1 9cyk0.2 9d440.1 9cyk0.2 9d440.1 9cyk0.2 9d440.1 9px80.2 " ++
      "905g0.1 9px80.2 9d440.1 9cyk0.2 9d440.1 9cyk0.2 9d440.1 9cyk0.2 8a840.1 afuk0.2 8a840.1 ast80.2 " ++
      "7x9g0.1 ast80.2 7x9g0.1 ast80.2 8a840.1 afuk0.2 8a840.1 afuk0.2 8a840.1 ast80.2 7x9g0.1 ast80.2 " ++
      "7x9g0.1 ast80.2 8a840.1 afuk0.2 8a840.1 afuk0.2 8a840.1 afuk0.2 8a840.1 ast80.2 7x9g0.1 ast80.2 " ++
      "7x9g0.1 ast80.2 8a840.1 afuk0.2 8a840.1 afuk0.2 8a840.1 ast80.2 7x9g0.1 ast80.2 7x9g0.1 ast80.2 " ++
      "6udg0.1 c8nw0.2 6hes0.1 c8nw0.2 6hes0.1 c8nw0.2 6udg0.1 c8nw0.2 6hes0.1 c8nw0.2 6hes0.1 c8nw0.2 " ++
      "6hes0.1 c8nw0.2 6hes0.1 c8nw0.2 6hes0.1 c8nw0.2 6udg0.1 c8nw0.2 6hes0.1 c8nw0.2 6hes0.1 c8nw0.2 " ++
      "6hes0.1 c8nw0.2 6hes0.1 c8nw0.2 6udg0.1 c8nw0.2 6hes0.1 c8nw0.2 6hes0.1 c8nw0.2 6hes0.1 c8nw0.2 " ++
      "6hes0.1 c8nw0.2 6hes0.1 c8nw0.2 6udg0.1 c8nw0.2 6hes0.1 c8nw0.2 6hes0.1 c8nw0.2 6hes0.1 c8nw0.2 " ++
      "6hes0.1 c8nw0.2 6udg0.1 c8nw0.2 6hes0.1 c8nw0.2 6hes0.1 c8nw0.2 6hes0.1 c8nw0.2 6hes0.1 c8nw0.2 " ++
      "6hes0.1 c8nw0.2;MST7MDT,M3.2.0,M11.1.0",
    "America/Detroit US/Michigan=-19931,-21600,-18000,-14400d,-14400d,-14400d;-xx8dyd.1 5eraud.2 " ++
      "dyeyk0.3 1tzb40.4 2dq40.2 1c9440.5 7x3w0.2 9rlbxo.5 71s2c.2 9d440.5 9cyk0.2 2cmdg0.5 9cyk0.2 " ++
      "3lpg0.5 f4d80.2 9d440.5 9cyk0.2 9d440.5 9px80.2 905g0.5 9px80.2 9d440.5 9cyk0.2 9d440.5 9cyk0.2 " ++
      "9d440.5 9cyk0.2 9d440.5 9cyk0.2 9d440.5 9px80.2 905g0.5 9px80.2 9d440.5 9cyk0.2 9d440.5 9cyk0.2 " ++
      "9d440.5 9cyk0.2 8a840.5 afuk0.2 8a840.5 ast80.2 7x9g0.5 ast80.2 7x9g0.5 ast80.2 8a840.5 afuk0.2 " ++
      "8a840.5 afuk0.2 8a840.5 ast80.2 7x9g0.5 ast80.2 7x9g0.5 ast80.2 8a840.5 afuk0.2 8a840.5 afuk0.2 " ++
      "8a840.5 afuk0.2 8a840.5 ast80.2 7x9g0.5 ast80.2 7x9g0.5 ast80.2 8a840.5 afuk0.2 8a840.5 afuk0.2 " ++
      "8a840.5 ast80.2 7x9g0.5 ast80.2 7x9g0.5 ast80.2 6udg0.5 c8nw0.2 6hes0.5 c8nw0.2 6hes0.5 c8nw0.2 " ++
      "6udg0.5 c8nw0.2 6hes0.5 c8nw0.2 6hes0.5 c8nw0.2 6hes0.5 c8nw0.2 6hes0.5 c8nw0.2 6hes0.5 c8nw0.2 " ++
      "6udg0.5 c8nw0.2 6hes0.5 c8nw0.2 6hes0.5 c8nw0.2 6hes0.5 c8nw0.2 6hes0.5 c8nw0.2 6udg0.5 c8nw0.2 " ++
      "6hes0.5 c8nw0.2 6hes0.5 c8nw0.2 6hes0.5 c8nw0.2 6hes0.5 c8nw0.2 6hes0.5 c8nw0.2 6udg0.5 c8nw0.2 " ++
      "6hes0.5 c8nw0.2 6hes0.5 c8nw0.2 6hes0.5 c8nw0.2 6hes0.5 c8nw0.2 6udg0.5 c8nw0.2 6hes0.5 c8nw0.2 " ++
      "6hes0.5 c8nw0.2 6hes0.5 c8nw0.2 6hes0.5 c8nw0.2 6hes0.5 c8nw0.2;EST5EDT,M3.2.0,M11.1.0",
    "America/Dominica=-14736,-14400;-uj7wl0.1;AST4",
    "America/Edmonton America/Yellowknife Canada/Mountain=-27232,-21600d,-25200,-21600d,-21600d;-x1yazk.2 " ++
      "629ink.1 a2vw0.2 8n6s0.1 29ek0.2 h6lg0.1 9px80.2 905g0.1 7x3w0.2 b5xg0.1 7k580.2 b5xg0.1 7x3w0.2 " ++
      "9l0g40.3 1tz5k0.4 2dvo0.2 tj1g0.1 7x3w0.2 ctzk40.1 9cyk0.2 9d440.1 9cyk0.2 9d440.1 9cyk0.2 " ++
      "9d440.1 9cyk0.2 9d440.1 9px80.2 905g0.1 9px80.2 9d440.1 9cyk0.2 9d440.1 9cyk0.2 9d440.1 9cyk0.2 " ++
      "9d440.1 9cyk0.2 9d440.1 9px80.2 905g0.1 9px80.2 9d440.1 9cyk0.2 9d440.1 9cyk0.2 9d440.1 9cyk0.2 " ++
      "8a840.1 afuk0.2 8a840.1 ast80.2 7x9g0.1 ast80.2 7x9g0.1 ast80.2 8a840.1 afuk0.2 8a840.1 afuk0.2 " ++
      "8a840.1 ast80.2 7x9g0.1 ast80.2 7x9g0.1 ast80.2 8a840.1 afuk0.2 8a840.1 afuk0.2 8a840.1 afuk0.2 " ++
      "8a840.1 ast80.2 7x9g0.1 ast80.2 7x9g0.1 ast80.2 8a840.1 afuk0.2 8a840.1 afuk0.2 8a840.1 ast80.2 " ++
      "7x9g0.1 ast80.2 7x9g0.1 ast80.2 6udg0.1 c8nw0.2 6hes0.1 c8nw0.2 6hes0.1 c8nw0.2 6udg0.1 c8nw0.2 " ++
      "6hes0.1 c8nw0.2 6hes0.1 c8nw0.2 6hes0.1 c8nw0.2 6hes0.1 c8nw0.2 6hes0.1 c8nw0.2 6udg0.1 c8nw0.2 " ++
      "6hes0.1 c8nw0.2 6hes0.1 c8nw0.2 6hes0.1 c8nw0.2 6hes0.1 c8nw0.2 6udg0.1 c8nw0.2 6hes0.1 c8nw0.2 " ++
      "6hes0.1 c8nw0.2 6hes0.1 c8nw0.2 6hes0.1 c8nw0.2 6hes0.1 c8nw0.2 6udg0.1 c8nw0.2 6hes0.1 c8nw0.2 " ++
      "6hes0.1 c8nw0.2 6hes0.1 c8nw0.2 6hes0.1 c8nw0.2 6udg0.1 c8nw0.2 6hes0.1 c8nw0.2 6hes0.1 c8nw0.2 " ++
      "6hes0.1 c8nw0.2 6hes0.1 c8nw0.2 6hes0.1 c8nw0.2;MST7MDT,M3.2.0,M11.1.0",
    "America/Eirunepe=-16768,-14400d,-18000,-14400,-18000;-t85f28.2 99ka68.1 9a9c0.2 9io40.1 99980.2 " ++
      "8p65g0.1 6zuo0.2 bs2o0.1 67zw0.2 cjxg0.1 69uk0.2 cjxg0.1 4ml80.2 5mf440.1 49mk0.2 haas0.1 " ++
      "316k0.2 cls40.1 4ml80.2 cls40.1 66580.2 cls40.1 67zw0.2 981s40.1 6u7w0.2 biw40.1 5rbw0.2 d0lg0.1 " ++
      "5ed80.2 2yy2s0.1 6h980.2 7hg2s0.3 2t2t80.2 cmiwjj.2;<-05>5",
    "America/El_Salvador=-21408,-18000d,-21600;-pkm4tc.2 ymao5c.1 7k580.2 b5xg0.1 7k580.2;CST6",
    "America/Ensenada America/Santa_Isabel Mexico/BajaNorte=-28084,-25200,-28800,-25200d;-p1u4k0.1 " ++
      "11juo0.2 1sm040.1 1si580.2 71s40.3 9cyk0.2 5iidg0.3 1q6700.3 4qzk0.2 18uw40.3 eluk0.2 2r4o80.3 " ++
      "7x6o0.2 asw00.3 7x6o0.2 b5uo0.3 7x6o0.2 asw00.3 7x6o0.2 asw00.3 7x6o0.2 asw00.3 7x6o0.2 asw00.3 " ++
      "7x6o0.2 84qys0.3 9px80.2 905g0.3 9px80.2 9d440.3 9cyk0.2 9d440.3 9cyk0.2 9d440.3 9cyk0.2 9d440.3 " ++
      "9cyk0.2 9d440.3 9px80.2 905g0.3 9px80.2 9d440.3 9cyk0.2 9d440.3 9cyk0.2 9d440.3 9cyk0.2 8a840.3 " ++
      "afuk0.2 8a840.3 ast80.2 7x9g0.3 ast80.2 7x9g0.3 ast80.2 8a840.3 afuk0.2 8a840.3 afuk0.2 8a840.3 " ++
      "ast80.2 7x9g0.3 ast80.2 7x9g0.3 ast80.2 8a840.3 afuk0.2 8a840.3 afuk0.2 8a840.3 afuk0.2 8a840.3 " ++
      "ast80.2 7x9g0.3 ast80.2 7x9g0.3 ast80.2 8a840.3 afuk0.2 8a840.3 afuk0.2 8a840.3 ast80.2 7x9g0.3 " ++
      "ast80.2 7x9g0.3 ast80.2 7x9g0.3 ast80.2 8a840.3 afuk0.2 8a840.3 afuk0.2 77c40.3 c8nw0.2 6hes0.3 " ++
      "c8nw0.2 6hes0.3 c8nw0.2 6hes0.3 c8nw0.2 6hes0.3 c8nw0.2 6hes0.3 c8nw0.2 6udg0.3 c8nw0.2 6hes0.3 " ++
      "c8nw0.2 6hes0.3 c8nw0.2 6hes0.3 c8nw0.2 6hes0.3 c8nw0.2 6udg0.3 c8nw0.2 6hes0.3 c8nw0.2 6hes0.3 " ++
      "c8nw0.2 6hes0.3 c8nw0.2 6hes0.3 c8nw0.2 6hes0.3 c8nw0.2 6udg0.3 c8nw0.2 6hes0.3 c8nw0.2 6hes0.3 " ++
      "c8nw0.2 6hes0.3 c8nw0.2 6hes0.3 c8nw0.2 6udg0.3 c8nw0.2 6hes0.3 c8nw0.2 6hes0.3 c8nw0.2 6hes0.3 " ++
      "c8nw0.2 6hes0.3 c8nw0.2 6hes0.3 c8nw0.2;PST8PDT,M3.2.0,M11.1.0",
    "America/Fort_Nelson=-29447,-25200d,-28800,-25200d,-25200d,-25200;-18vrvy1.2 hw36e1.1 a2vw0.2 " ++
      "c5jxg0.3 1tz2s0.4 2dyg0.2 tj1g0.1 7x3w0.2 asys0.1 7x3w0.2 asys0.1 7x3w0.2 b5xg0.1 7k580.2 " ++
      "b5xg0.1 7x3w0.2 asys0.1 7x3w0.2 asys0.1 7x3w0.2 asys0.1 7x3w0.2 asys0.1 7x3w0.2 b5xg0.1 7x3w0.2 " ++
      "asys0.1 7x3w0.2 asys0.1 7x3w0.2 asys0.1 7x3w0.2 asys0.1 7x3w0.2 b5xg0.1 7k580.2 b5xg0.1 9cyk0.2 " ++
      "9d440.1 9cyk0.2 9d440.1 9cyk0.2 9d440.1 9px80.2 905g0.1 9px80.2 9d440.1 9cyk0.2 9d440.1 9cyk0.2 " ++
      "9d440.1 9cyk0.2 9d440.1 9cyk0.2 9d440.1 9px80.2 9d440.1 9cyk0.2 9d440.1 9cyk0.2 9d440.1 9cyk0.2 " ++
      "9d440.1 9cyk0.2 9d440.1 9px80.2 905g0.1 9px80.2 9d440.1 9cyk0.2 9d440.1 9cyk0.2 9d440.1 9cyk0.2 " ++
      "9d440.1 9cyk0.2 9d440.1 9px80.2 905g0.1 9px80.2 9d440.1 9cyk0.2 9d440.1 9cyk0.2 9d440.1 9cyk0.2 " ++
      "8a840.1 afuk0.2 8a840.1 ast80.2 7x9g0.1 ast80.2 7x9g0.1 ast80.2 8a840.1 afuk0.2 8a840.1 afuk0.2 " ++
      "8a840.1 ast80.2 7x9g0.1 ast80.2 7x9g0.1 ast80.2 8a840.1 afuk0.2 8a840.1 afuk0.2 8a840.1 afuk0.2 " ++
      "8a840.1 ast80.2 7x9g0.1 ast80.2 7x9g0.1 ast80.2 8a840.1 afuk0.2 8a840.1 afuk0.2 8a840.1 ast80.2 " ++
      "7x9g0.1 ast80.2 7x9g0.1 ast80.2 6udg0.1 c8nw0.2 6hes0.1 c8nw0.2 6hes0.1 c8nw0.2 6udg0.1 c8nw0.2 " ++
      "6hes0.1 c8nw0.2 6hes0.1 c8nw0.2 6hes0.1 c8nw0.2 6hes0.1 c8nw0.2 6hes0.5;MST7",
    "America/Fort_Wayne America/Indiana/Indianapolis America/Indianapolis US/East-Indiana=-20678,-18000d,-21600,-21600,-18000" ++
      "d,-18000d,-18000,-14400d;-18y0m00.3 hxltk0.1 ast80.2 7x9g0.1 ast80.2 baw840.1 51ek0.2 6w840.4 " ++
      "1tz8c0.5 2dsw0.2 asys0.1 7x3w0.2 asys0.1 7x3w0.2 asys0.1 7x3w0.2 asys0.1 7x3w0.2 b5xg0.1 7k580.2 " ++
      "b5xg0.1 7x3w0.2 asys0.1 7x3w0.2 asys0.1 7x3w0.2 asys0.1 7x3w0.2 asys0.6 19q7w0.2 asys0.6 5qonw0.7 " ++
      "9cyk0.6 9d440.7 9cyk0.6 ihslg0.7 ast80.6 6udg0.7 c8nw0.6 6hes0.7 c8nw0.6 6hes0.7 c8nw0.6 6udg0.7 " ++
      "c8nw0.6 6hes0.7 c8nw0.6 6hes0.7 c8nw0.6 6hes0.7 c8nw0.6 6hes0.7 c8nw0.6 6hes0.7 c8nw0.6 6udg0.7 " ++
      "c8nw0.6 6hes0.7 c8nw0.6 6hes0.7 c8nw0.6 6hes0.7 c8nw0.6 6hes0.7 c8nw0.6 6udg0.7 c8nw0.6 6hes0.7 " ++
      "c8nw0.6 6hes0.7 c8nw0.6 6hes0.7 c8nw0.6 6hes0.7 c8nw0.6 6hes0.7 c8nw0.6 6udg0.7 c8nw0.6 6hes0.7 " ++
      "c8nw0.6 6hes0.7 c8nw0.6 6hes0.7 c8nw0.6 6hes0.7 c8nw0.6 6udg0.7 c8nw0.6 6hes0.7 c8nw0.6 6hes0.7 " ++
      "c8nw0.6 6hes0.7 c8nw0.6 6hes0.7 c8nw0.6 6hes0.7 c8nw0.6;EST5EDT,M3.2.0,M11.1.0",
    "America/Fortaleza=-9240,-7200d,-10800;-t85kvc.2 99kafc.1 9a9c0.2 9io40.1 99980.2 8p65g0.1 " ++
      "6zuo0.2 bs2o0.1 67zw0.2 cjxg0.1 69uk0.2 cjxg0.1 4ml80.2 5mf440.1 49mk0.2 haas0.1 316k0.2 cls40.1 " ++
      "4ml80.2 cls40.1 66580.2 cls40.1 67zw0.2 981s40.1 6u7w0.2 biw40.1 5rbw0.2 d0lg0.1 5ed80.2 cyqs0.1 " ++
      "5ed80.2 dbpg0.1 64ak0.2 514g40.1 7k580.2 biw40.1 puk0.2 id6s0.1 6h980.2 iqwe3j.2;<-03>3",
    "America/Glace_Bay=-14388,-10800d,-14400,-10800d,-10800d;-z94kwc.2 89fk8c.1 a2vw0.2 c5jxg0.3 " ++
      "1tzdw0.4 2dnc0.2 3y8g40.1 7x3w0.2 9pa5g0.1 9cyk0.2 9d440.1 9cyk0.2 9d440.1 9cyk0.2 9d440.1 " ++
      "9cyk0.2 9d440.1 9px80.2 905g0.1 9px80.2 9d440.1 9cyk0.2 9d440.1 9cyk0.2 9d440.1 9cyk0.2 9d440.1 " ++
      "9cyk0.2 9d440.1 9px80.2 905g0.1 9px80.2 9d440.1 9cyk0.2 9d440.1 9cyk0.2 9d440.1 9cyk0.2 8a840.1 " ++
      "afuk0.2 8a840.1 ast80.2 7x9g0.1 ast80.2 7x9g0.1 ast80.2 8a840.1 afuk0.2 8a840.1 afuk0.2 8a840.1 " ++
      "ast80.2 7x9g0.1 ast80.2 7x9g0.1 ast80.2 8a840.1 afuk0.2 8a840.1 afuk0.2 8a840.1 afuk0.2 8a840.1 " ++
      "ast80.2 7x9g0.1 ast80.2 7x9g0.1 ast80.2 8a840.1 afuk0.2 8a840.1 afuk0.2 8a840.1 ast80.2 7x9g0.1 " ++
      "ast80.2 7x9g0.1 ast80.2 6udg0.1 c8nw0.2 6hes0.1 c8nw0.2 6hes0.1 c8nw0.2 6udg0.1 c8nw0.2 6hes0.1 " ++
      "c8nw0.2 6hes0.1 c8nw0.2 6hes0.1 c8nw0.2 6hes0.1 c8nw0.2 6hes0.1 c8nw0.2 6udg0.1 c8nw0.2 6hes0.1 " ++
      "c8nw0.2 6hes0.1 c8nw0.2 6hes0.1 c8nw0.2 6hes0.1 c8nw0.2 6udg0.1 c8nw0.2 6hes0.1 c8nw0.2 6hes0.1 " ++
      "c8nw0.2 6hes0.1 c8nw0.2 6hes0.1 c8nw0.2 6hes0.1 c8nw0.2 6udg0.1 c8nw0.2 6hes0.1 c8nw0.2 6hes0.1 " ++
      "c8nw0.2 6hes0.1 c8nw0.2 6hes0.1 c8nw0.2 6udg0.1 c8nw0.2 6hes0.1 c8nw0.2 6hes0.1 c8nw0.2 6hes0.1 " ++
      "c8nw0.2 6hes0.1 c8nw0.2 6hes0.1 c8nw0.2;AST4ADT,M3.2.0,M11.1.0",
    "America/Godthab America/Nuuk=-12416,-10800,-10800,-7200d,-7200d,-7200,-3600d;-rvumf4.1 x8nqz4.4 " ++
      "8zrk0.2 9d1c0.3 9d1c0.2 9d1c0.3 9d1c0.2 9d1c0.3 9d1c0.2 9d1c0.3 9q000.2 9d1c0.3 9d1c0.2 9d1c0.3 " ++
      "9d1c0.2 9d1c0.3 9d1c0.2 9d1c0.3 9d1c0.2 9d1c0.3 9d1c0.2 9d1c0.3 9q000.2 9d1c0.3 9d1c0.2 9d1c0.3 " ++
      "9d1c0.2 9d1c0.3 9d1c0.2 9d1c0.3 9d1c0.2 9d1c0.3 9d1c0.2 9q000.3 asw00.2 7x6o0.3 asw00.2 7x6o0.3 " ++
      "asw00.2 7x6o0.3 b5uo0.2 7k800.3 b5uo0.2 7k800.3 b5uo0.2 7x6o0.3 asw00.2 7x6o0.3 asw00.2 7x6o0.3 " ++
      "b5uo0.2 7k800.3 b5uo0.2 7k800.3 b5uo0.2 7k800.3 b5uo0.2 7x6o0.3 asw00.2 7x6o0.3 asw00.2 7x6o0.3 " ++
      "b5uo0.2 7k800.3 b5uo0.2 7k800.3 b5uo0.2 7x6o0.3 asw00.2 7x6o0.3 asw00.2 7x6o0.3 asw00.2 7x6o0.3 " ++
      "b5uo0.2 7k800.3 b5uo0.2 7k800.3 b5uo0.2 7x6o0.3 asw00.2 7x6o0.3 asw00.2 7x6o0.3 b5uo0.2 7k800.3 " ++
      "b5uo0.2 7k800.5 j31c0.6 asw00.5 7x6o0.6 asw00.5 7x6o0.6 asw00.5 7x6o0.6 b5uo0.5 7k800.6 b5uo0.5 " ++
      "7k800.6 b5uo0.5 7x6o0.6 asw00.5 7x6o0.6 asw00.5 7x6o0.6 b5uo0.5 7k800.6 b5uo0.5 7k800.6 b5uo0.5 " ++
      "7k800.6 b5uo0.5 7x6o0.6 asw00.5 7x6o0.6 asw00.5 4ffjj.5;<-02>2<-01>,M3.5.0/-1,M10.5.0/0",
    "America/Goose_Bay=-14500,-12652,-9052d,-12600,-9000d,-9000d,-9000d,-10800d,-14400,-7200d,-10800d;-18vs7h8.1 " ++
      "hw35go.2 a2vw0.1 8kjbw0.3 kzjyk.4 7k580.3 b5xg0.4 7k580.3 b5xg0.4 7k580.3 biw40.4 776k0.3 " ++
      "biw40.4 7k580.3 b5xg0.4 7k580.3 b5xg0.6 1pb260.5 2dly0.3 biw40.4 7k580.3 b5xg0.4 7k580.3 b5xg0.4 " ++
      "7k580.3 b5xg0.4 7k580.3 biw40.4 7k580.3 ag040.4 7x3w0.3 asys0.4 7x3w0.3 asys0.4 7x3w0.3 asys0.4 " ++
      "7x3w0.3 asys0.4 7x3w0.3 b5xg0.4 7x3w0.3 asys0.4 7x3w0.3 asys0.4 7x3w0.3 asys0.4 7x3w0.3 asys0.4 " ++
      "9px80.3 9d440.4 9cyk0.3 9d440.4 9cyk0.3 9d440.4 9cyk0.3 9d440.4 9cyk0.3 9d440.4 9px80.3 6y2s0.8 " ++
      "22420.7 9px80.8 9d440.7 9cyk0.8 9d440.7 9cyk0.8 9d440.7 9cyk0.8 9d440.7 9cyk0.8 9d440.7 9px80.8 " ++
      "9d440.7 9cyk0.8 9d440.7 9cyk0.8 9d440.7 9cyk0.8 9d440.7 9cyk0.8 9d440.7 9px80.8 905g0.7 9px80.8 " ++
      "9d440.7 9cyk0.8 9d440.7 9cyk0.8 9d440.7 9cyk0.8 9d440.7 9cyk0.8 9d440.7 9px80.8 905g0.7 9px80.8 " ++
      "9d440.7 9cyk0.8 9d440.7 9cyk0.8 9d440.7 9cyk0.8 8a2lo.7 afuk0.8 8a840.9 asqg0.8 7xc80.7 ast80.8 " ++
      "7x9g0.7 ast80.8 8a840.7 afuk0.8 8a840.7 afuk0.8 8a840.7 ast80.8 7x9g0.7 ast80.8 7x9g0.7 ast80.8 " ++
      "8a840.7 afuk0.8 8a840.7 afuk0.8 8a840.7 afuk0.8 8a840.7 ast80.8 7x9g0.7 ast80.8 7x9g0.7 ast80.8 " ++
      "8a840.7 afuk0.8 8a840.7 afuk0.8 8a840.7 ast80.8 7x9g0.7 ast80.8 7x9g0.7 ast80.8 6udg0.7 c8nw0.8 " ++
      "6hes0.7 c8nw0.8 6hes0.7 c8nw0.8 6udg0.7 c8nw0.8 6hes0.7 c8tec.8 6hes0.7 c8nw0.8 6hes0.7 c8nw0.8 " ++
      "6hes0.7 c8nw0.8 6hes0.7 c8nw0.8 6udg0.7 c8nw0.8 6hes0.7 c8nw0.8 6hes0.7 c8nw0.8 6hes0.7 c8nw0.8 " ++
      "6hes0.7 c8nw0.8 6udg0.7 c8nw0.8 6hes0.7 c8nw0.8 6hes0.7 c8nw0.8 6hes0.7 c8nw0.8 6hes0.7 c8nw0.8 " ++
      "6hes0.7 c8nw0.8 6udg0.7 c8nw0.8 6hes0.7 c8nw0.8 6hes0.7 c8nw0.8 6hes0.7 c8nw0.8 6hes0.7 c8nw0.8 " ++
      "6udg0.7 c8nw0.8 6hes0.7 c8nw0.8 6hes0.7 c8nw0.8 6hes0.7 c8nw0.8 6hes0.7 c8nw0.8 6hes0.7 c8nw0.8;AST4ADT,M3.2.0,M11.1.0",
    "America/Grand_Turk=-17072,-18430,-18000,-14400d,-14400,-18000;-15r0w5s.1 biv7pq.2 z3brw2.3 " ++
      "9cyk0.2 9d440.3 9cyk0.2 9d440.3 9cyk0.2 9d440.3 9px80.2 905g0.3 9px80.2 9d440.3 9cyk0.2 9d440.3 " ++
      "9cyk0.2 9d440.3 9cyk0.2 8a840.3 afuk0.2 8a840.3 ast80.2 7x9g0.3 ast80.2 7x9g0.3 ast80.2 8a840.3 " ++
      "afuk0.2 8a840.3 afuk0.2 8a840.3 ast80.2 7x9g0.3 ast80.2 7x9g0.3 ast80.2 8a840.3 afuk0.2 8a840.3 " ++
      "afuk0.2 8a840.3 afuk0.2 8a840.3 ast80.2 7x9g0.3 ast80.2 7x9g0.3 ast80.2 8a840.3 afuk0.2 8a840.3 " ++
      "afuk0.2 8a840.3 ast80.2 7x9g0.3 ast80.2 7x9g0.3 ast80.2 6udg0.3 c8nw0.2 6hes0.3 c8nw0.2 6hes0.3 " ++
      "c8nw0.2 6udg0.3 c8nw0.2 6hes0.3 c8nw0.2 6hes0.3 c8nw0.2 6hes0.3 c8nw0.2 6hes0.3 c8nw0.2 6hes0.4 " ++
      "1kj6o0.3 c8nw0.2 6hes0.3 c8nw0.2 6hes0.3 c8nw0.2 6udg0.3 c8nw0.2 6hes0.3 c8nw0.2 6hes0.3 c8nw0.2 " ++
      "6hes0.3 c8nw0.2 6hes0.3 c8nw0.2 6hes0.3 c8nw0.2 6udg0.3 c8nw0.2 6hes0.3 c8nw0.2 6hes0.3 c8nw0.2 " ++
      "6hes0.3 c8nw0.2 6hes0.3 c8nw0.2 6udg0.3 c8nw0.2 6hes0.3 c8nw0.2 6hes0.3 c8nw0.2 6hes0.3 c8nw0.2 " ++
      "6hes0.3 c8nw0.2 6hes0.3 c8nw0.2;EST5EDT,M3.2.0,M11.1.0",
    "America/Grenada=-14820,-14400;-uj7wkc.1;AST4",
    "America/Guadeloupe=-14768,-14400;-ukehxs.1;AST4",
    "America/Guatemala=-21724,-18000d,-21600;-qqqskk.2 ss0akk.1 4ofw0.2 4tidg0.1 6djw0.2 3wwas0.1 " ++
      "8n180.2 7n5ms0.1 7x3w0.2;CST6",
    "America/Guayaquil=-19160,-18840,-14400d,-18000;-15r0ujs.1 le9mf4.3 wb620o.2 3jp80.3 nglhvj.3;<-05>5",
    "America/Guyana=-13959,-14400,-13500,-10800,-14400;-uhmik9.1 1va8c9.2 vj6nb0.3 8p0jd0.1 nwp4jj.1;<-04>4",
    "America/Halifax Canada/Atlantic=-15264,-10800d,-14400,-10800d,-10800d;-z94k80.2 777go0.1 9et80.2 " ++
      "st9o0.1 a2vw0.2 ssyk0.1 5rbw0.2 cv1g0.1 69uk0.2 c6ys0.1 6kyk0.2 ci2s0.1 67zw0.2 ci2s0.1 6w2k0.2 " ++
      "bu040.1 7lzw0.2 bu040.1 66580.2 bu040.1 7lzw0.2 bu040.1 64ak0.2 cls40.1 5v180.2 cv1g0.1 6j3w0.2 " ++
      "c6ys0.1 79180.2 b42s0.1 7lzw0.2 b42s0.1 7yyk0.2 bu040.1 64ak0.2 dbpg0.1 66580.2 cls40.1 5ed80.2 " ++
      "bu040.1 7lzw0.2 b42s0.1 7lzw0.2 cjxg0.1 66580.2 bh1g0.1 7lzw0.2 b42s0.1 7lzw0.2 6uj00.3 1tzdw0.4 " ++
      "2dnc0.2 asys0.1 7x3w0.2 asys0.1 7x3w0.2 asys0.1 7x3w0.2 asys0.1 7x3w0.2 tw040.1 7x3w0.2 asys0.1 " ++
      "7x3w0.2 asys0.1 7x3w0.2 asys0.1 7x3w0.2 tw040.1 7x3w0.2 asys0.1 7x3w0.2 asys0.1 7x3w0.2 asys0.1 " ++
      "7x3w0.2 1cm2s0.1 9cyk0.2 9d440.1 9cyk0.2 9d440.1 9cyk0.2 9d440.1 9px80.2 905g0.1 9px80.2 9d440.1 " ++
      "9cyk0.2 9d440.1 9cyk0.2 9d440.1 9cyk0.2 9d440.1 9cyk0.2 9d440.1 9px80.2 9d440.1 9cyk0.2 9d440.1 " ++
      "9cyk0.2 9d440.1 9cyk0.2 9d440.1 9cyk0.2 9d440.1 9px80.2 905g0.1 9px80.2 9d440.1 9cyk0.2 9d440.1 " ++
      "9cyk0.2 9d440.1 9cyk0.2 9d440.1 9cyk0.2 9d440.1 9px80.2 905g0.1 9px80.2 9d440.1 9cyk0.2 9d440.1 " ++
      "9cyk0.2 9d440.1 9cyk0.2 8a840.1 afuk0.2 8a840.1 ast80.2 7x9g0.1 ast80.2 7x9g0.1 ast80.2 8a840.1 " ++
      "afuk0.2 8a840.1 afuk0.2 8a840.1 ast80.2 7x9g0.1 ast80.2 7x9g0.1 ast80.2 8a840.1 afuk0.2 8a840.1 " ++
      "afuk0.2 8a840.1 afuk0.2 8a840.1 ast80.2 7x9g0.1 ast80.2 7x9g0.1 ast80.2 8a840.1 afuk0.2 8a840.1 " ++
      "afuk0.2 8a840.1 ast80.2 7x9g0.1 ast80.2 7x9g0.1 ast80.2 6udg0.1 c8nw0.2 6hes0.1 c8nw0.2 6hes0.1 " ++
      "c8nw0.2 6udg0.1 c8nw0.2 6hes0.1 c8nw0.2 6hes0.1 c8nw0.2 6hes0.1 c8nw0.2 6hes0.1 c8nw0.2 6hes0.1 " ++
      "c8nw0.2 6udg0.1 c8nw0.2 6hes0.1 c8nw0.2 6hes0.1 c8nw0.2 6hes0.1 c8nw0.2 6hes0.1 c8nw0.2 6udg0.1 " ++
      "c8nw0.2 6hes0.1 c8nw0.2 6hes0.1 c8nw0.2 6hes0.1 c8nw0.2 6hes0.1 c8nw0.2 6hes0.1 c8nw0.2 6udg0.1 " ++
      "c8nw0.2 6hes0.1 c8nw0.2 6hes0.1 c8nw0.2 6hes0.1 c8nw0.2 6hes0.1 c8nw0.2 6udg0.1 c8nw0.2 6hes0.1 " ++
      "c8nw0.2 6hes0.1 c8nw0.2 6hes0.1 c8nw0.2 6hes0.1 c8nw0.2 6hes0.1 c8nw0.2;AST4ADT,M3.2.0,M11.1.0",
    "America/Havana Cuba=-19768,-19776,-14400d,-18000,-18000,-14400d;-15r0u2w.1 ijto08.3 1icfyo.2 " ++
      "69uk0.3 62s040.2 4ofw0.3 e1ms0.2 51ek0.3 e1ms0.2 4ofw0.3 1fhs40.2 4ofw0.3 e1ms0.2 4ofw0.3 " ++
      "9s9k40.2 67zw0.3 cedg0.2 6h980.3 9o840.2 7yyk0.3 b5xg0.2 7k580.3 bvus0.2 9cyk0.3 9d440.2 9cyk0.3 " ++
      "9d440.2 9px80.3 9d440.2 8a2k0.3 ag040.2 8bx80.3 ae5g0.2 8drw0.3 acas0.2 9cyk0.3 9d440.2 9px80.3 " ++
      "905g0.2 9px80.3 9q2s0.2 7x3w0.3 8a840.2 ast80.3 7x9g0.2 ast80.3 asys0.2 7x3w0.3 asys0.2 7x3w0.3 " ++
      "asys0.2 7x3w0.3 asys0.2 8a2k0.3 ag040.2 8a2k0.3 7x9g0.2 ast80.3 7x9g0.2 ast80.3 8a840.2 afuk0.3 " ++
      "8a840.2 afuk0.3 905g0.2 a2vw0.3 905g0.2 9q000.4 902o0.2 9q000.4 902o0.2 9q000.4 902o0.2 9q000.4 " ++
      "902o0.2 9q000.4 9d1c0.2 9d1c0.4 9d1c0.2 9q000.4 8n400.5 asw00.4 7x6o0.5 b5uo0.4 7x6o0.5 asw00.4 " ++
      "7x6o0.5 asw00.4 8a5c0.5 afxc0.4 8a5c0.5 afxc0.4 7x6o0.5 1cm000.4 6uao0.5 bvs00.4 779c0.5 bitc0.4 " ++
      "6uao0.5 bvs00.4 779c0.5 bvs00.4 779c0.5 c8qo0.4 779c0.5 b5uo0.4 6hc00.5 c8qo0.4 6hc00.5 c8qo0.4 " ++
      "6hc00.5 c8qo0.4 6uao0.5 c8qo0.4 6hc00.5 c8qo0.4 6hc00.5 c8qo0.4 6hc00.5 c8qo0.4 6hc00.5 c8qo0.4 " ++
      "6uao0.5 c8qo0.4 6hc00.5 c8qo0.4 6hc00.5 c8qo0.4 6hc00.5 c8qo0.4 6hc00.5 c8qo0.4 6hc00.5 c8qo0.4 " ++
      "6uao0.5 c8qo0.4 6hc00.5 c8qo0.4 6hc00.5 c8qo0.4 6hc00.5 c8qo0.4 6hc00.5 c8qo0.4 6uao0.5 c8qo0.4 " ++
      "6hc00.5 c8qo0.4 6hc00.5 c8qo0.4 6hc00.5 c8qo0.4 6hc00.5 c8qo0.4 6hc00.5 c8qo0.4;CST5CDT,M3.2.0/0,M11.1.0/1",
    "America/Hermosillo=-26632,-25200,-21600,-21600d,-25200;-p1u4k0.1 2u5s00.2 1si580.4 8jhg0.3 " ++
      "7x3w0.4 9eys0.2 591h80.4 s5qoc0.3 afuk0.4 8a840.3 afuk0.4 8a840.3 afuk0.4;MST7",
    "America/Indiana/Knox America/Knox_IN US/Indiana-Starke=-20790,-18000d,-21600,-18000d,-18000d,-21600,-18000,-21600;-18y0m" ++
      "00.5 hxltk0.1 ast80.2 7x9g0.1 ast80.2 bmtus0.3 1tz8c0.4 2dsw0.2 tj1g0.1 7x3w0.2 asys0.1 7x3w0.2 " ++
      "asys0.1 7x3w0.2 b5xg0.1 7k580.2 b5xg0.1 7x3w0.2 asys0.1 7x3w0.2 asys0.1 7x3w0.2 asys0.1 7x3w0.2 " ++
      "asys0.1 9px80.2 9d440.1 9cyk0.2 9d440.1 7x3w0.2 asys0.1 7x3w0.2 asys0.1 9cyk0.2 9d440.1 9px80.2 " ++
      "9d440.1 9cyk0.2 9d440.6 s3180.2 1twas0.1 9cyk0.2 9d440.1 9cyk0.2 9d440.1 9cyk0.2 9d440.1 9cyk0.2 " ++
      "9d440.1 9px80.2 9d440.1 9cyk0.2 9d440.1 9cyk0.2 3lpg0.1 f4d80.2 64g40.1 clmk0.2 9d440.1 9px80.2 " ++
      "905g0.1 9px80.2 9d440.1 9cyk0.2 9d440.1 9cyk0.2 9d440.1 9cyk0.2 9d440.1 9cyk0.2 9d440.1 9px80.2 " ++
      "905g0.1 9px80.2 9d440.1 9cyk0.2 9d440.1 9cyk0.2 9d440.1 9cyk0.2 8a840.1 afuk0.2 8a840.1 ast80.2 " ++
      "7x9g0.1 ast80.2 7x9g0.1 ast80.2 8a840.1 afuk0.6 7j5400.1 asw00.2 6udg0.1 c8nw0.2 6hes0.1 c8nw0.2 " ++
      "6hes0.1 c8nw0.2 6udg0.1 c8nw0.2 6hes0.1 c8nw0.2 6hes0.1 c8nw0.2 6hes0.1 c8nw0.2 6hes0.1 c8nw0.2 " ++
      "6hes0.1 c8nw0.2 6udg0.1 c8nw0.2 6hes0.1 c8nw0.2 6hes0.1 c8nw0.2 6hes0.1 c8nw0.2 6hes0.1 c8nw0.2 " ++
      "6udg0.1 c8nw0.2 6hes0.1 c8nw0.2 6hes0.1 c8nw0.2 6hes0.1 c8nw0.2 6hes0.1 c8nw0.2 6hes0.1 c8nw0.2 " ++
      "6udg0.1 c8nw0.2 6hes0.1 c8nw0.2 6hes0.1 c8nw0.2 6hes0.1 c8nw0.2 6hes0.1 c8nw0.2 6udg0.1 c8nw0.2 " ++
      "6hes0.1 c8nw0.2 6hes0.1 c8nw0.2 6hes0.1 c8nw0.2 6hes0.1 c8nw0.2 6hes0.1 c8nw0.2;CST6CDT,M3.2.0,M11.1.0",
    "America/Indiana/Marengo=-20723,-18000d,-21600,-18000d,-18000d,-21600,-18000,-14400d;-18y0m00.5 " ++
      "hxltk0.1 ast80.2 7x9g0.1 ast80.2 bmtus0.3 1tz8c0.4 2dsw0.2 2wsas0.1 7x3w0.2 1c9440.1 7x3w0.2 " ++
      "asys0.1 7x3w0.2 b5xg0.1 7x3w0.2 asys0.1 7x3w0.2 asys0.1 7x3w0.2 asys0.1 7x3w0.2 asys0.1 7x3w0.2 " ++
      "b5xg0.6 465h80.7 9cyk0.6 9d440.7 9cyk0.6 9d440.7 9px80.6 9d440.7 9cyk0.6 9d440.7 9cyk0.6 3lpg0.1 " ++
      "f4g00.6 64dc0.7 clmk0.6 fvt9g0.7 ast80.6 6udg0.7 c8nw0.6 6hes0.7 c8nw0.6 6hes0.7 c8nw0.6 6udg0.7 " ++
      "c8nw0.6 6hes0.7 c8nw0.6 6hes0.7 c8nw0.6 6hes0.7 c8nw0.6 6hes0.7 c8nw0.6 6hes0.7 c8nw0.6 6udg0.7 " ++
      "c8nw0.6 6hes0.7 c8nw0.6 6hes0.7 c8nw0.6 6hes0.7 c8nw0.6 6hes0.7 c8nw0.6 6udg0.7 c8nw0.6 6hes0.7 " ++
      "c8nw0.6 6hes0.7 c8nw0.6 6hes0.7 c8nw0.6 6hes0.7 c8nw0.6 6hes0.7 c8nw0.6 6udg0.7 c8nw0.6 6hes0.7 " ++
      "c8nw0.6 6hes0.7 c8nw0.6 6hes0.7 c8nw0.6 6hes0.7 c8nw0.6 6udg0.7 c8nw0.6 6hes0.7 c8nw0.6 6hes0.7 " ++
      "c8nw0.6 6hes0.7 c8nw0.6 6hes0.7 c8nw0.6 6hes0.7 c8nw0.6;EST5EDT,M3.2.0,M11.1.0",
    "America/Indiana/Petersburg=-20947,-18000d,-21600,-18000d,-18000d,-21600,-18000,-14400d;-18y0m00.5 " ++
      "hxltk0.1 ast80.2 7x9g0.1 ast80.2 bmtus0.3 1tz8c0.4 2dsw0.2 501ek0.1 7kas0.2 b5xg0.1 7x3w0.2 " ++
      "asys0.1 7x3w0.2 asys0.1 7x3w0.2 asys0.1 7x3w0.2 asys0.1 7x3w0.2 b5xg0.1 9cyk0.2 9d440.1 9cyk0.2 " ++
      "9d440.1 9cyk0.2 9d440.1 9cyk0.2 9d440.6 sfzw0.2 9d440.1 9cyk0.2 9d440.1 9cyk0.2 9d440.1 9cyk0.2 " ++
      "9d440.1 9cyk0.2 9d440.1 9px80.2 9d440.1 9cyk0.2 9d440.1 9cyk0.2 3lpg0.1 f4d80.2 64g40.1 clmk0.2 " ++
      "9d440.1 9px80.2 905g0.1 9px80.6 eu02o0.1 asw00.2 6udg0.1 c8nw0.6 6hc00.7 c8nw0.6 6hes0.7 c8nw0.6 " ++
      "6udg0.7 c8nw0.6 6hes0.7 c8nw0.6 6hes0.7 c8nw0.6 6hes0.7 c8nw0.6 6hes0.7 c8nw0.6 6hes0.7 c8nw0.6 " ++
      "6udg0.7 c8nw0.6 6hes0.7 c8nw0.6 6hes0.7 c8nw0.6 6hes0.7 c8nw0.6 6hes0.7 c8nw0.6 6udg0.7 c8nw0.6 " ++
      "6hes0.7 c8nw0.6 6hes0.7 c8nw0.6 6hes0.7 c8nw0.6 6hes0.7 c8nw0.6 6hes0.7 c8nw0.6 6udg0.7 c8nw0.6 " ++
      "6hes0.7 c8nw0.6 6hes0.7 c8nw0.6 6hes0.7 c8nw0.6 6hes0.7 c8nw0.6 6udg0.7 c8nw0.6 6hes0.7 c8nw0.6 " ++
      "6hes0.7 c8nw0.6 6hes0.7 c8nw0.6 6hes0.7 c8nw0.6 6hes0.7 c8nw0.6;EST5EDT,M3.2.0,M11.1.0",
    "America/Indiana/Tell_City=-20823,-18000d,-21600,-18000d,-18000d,-21600,-18000,-14400d,-18000d,-21600;-18y0m00.5 " ++
      "hxltk0.1 ast80.2 7x9g0.1 ast80.2 bmtus0.3 1tz8c0.4 2dsw0.2 501ek0.1 7kas0.2 b5xg0.1 7x3w0.2 " ++
      "asys0.1 7x3w0.2 asys0.1 7x3w0.2 asys0.1 7x3w0.2 asys0.1 7x3w0.2 b5xg0.1 9cyk0.2 9d440.1 9cyk0.2 " ++
      "9d440.1 9cyk0.2 9d440.6 1tw580.2 9d440.1 9cyk0.2 9d440.7 9cvs0.6 9d440.7 9cyk0.6 ihslg0.1 " ++
      "asw00.2 6udg0.1 c8nw0.2 6hes0.1 c8nw0.2 6hes0.1 c8nw0.2 6udg0.1 c8nw0.2 6hes0.1 c8nw0.2 6hes0.1 " ++
      "c8nw0.2 6hes0.1 c8nw0.2 6hes0.1 c8nw0.2 6hes0.1 c8nw0.2 6udg0.1 c8nw0.2 6hes0.1 c8nw0.2 6hes0.1 " ++
      "c8nw0.2 6hes0.1 c8nw0.2 6hes0.1 c8nw0.2 6udg0.1 c8nw0.2 6hes0.1 c8nw0.2 6hes0.1 c8nw0.2 6hes0.1 " ++
      "c8nw0.2 6hes0.1 c8nw0.2 6hes0.1 c8nw0.2 6udg0.1 c8nw0.2 6hes0.1 c8nw0.2 6hes0.1 c8nw0.2 6hes0.1 " ++
      "c8nw0.2 6hes0.1 c8nw0.2 6udg0.1 c8nw0.2 6hes0.1 c8nw0.2 6hes0.1 c8nw0.2 6hes0.1 c8nw0.2 6hes0.1 " ++
      "c8nw0.2 6hes0.1 c8nw0.2;CST6CDT,M3.2.0,M11.1.0",
    "America/Indiana/Vevay=-20416,-18000d,-21600,-18000d,-18000d,-21600,-18000,-14400d;-18y0m00.5 " ++
      "hxltk0.1 ast80.2 7x9g0.1 ast80.2 bmtus0.3 1tz8c0.4 2dsw0.2 4gyis0.6 7txx80.7 9cyk0.6 9d440.7 " ++
      "9cyk0.6 9d440.7 9px80.6 9d440.7 9cyk0.6 hfzhg0.7 ast80.6 6udg0.7 c8nw0.6 6hes0.7 c8nw0.6 6hes0.7 " ++
      "c8nw0.6 6udg0.7 c8nw0.6 6hes0.7 c8nw0.6 6hes0.7 c8nw0.6 6hes0.7 c8nw0.6 6hes0.7 c8nw0.6 6hes0.7 " ++
      "c8nw0.6 6udg0.7 c8nw0.6 6hes0.7 c8nw0.6 6hes0.7 c8nw0.6 6hes0.7 c8nw0.6 6hes0.7 c8nw0.6 6udg0.7 " ++
      "c8nw0.6 6hes0.7 c8nw0.6 6hes0.7 c8nw0.6 6hes0.7 c8nw0.6 6hes0.7 c8nw0.6 6hes0.7 c8nw0.6 6udg0.7 " ++
      "c8nw0.6 6hes0.7 c8nw0.6 6hes0.7 c8nw0.6 6hes0.7 c8nw0.6 6hes0.7 c8nw0.6 6udg0.7 c8nw0.6 6hes0.7 " ++
      "c8nw0.6 6hes0.7 c8nw0.6 6hes0.7 c8nw0.6 6hes0.7 c8nw0.6 6hes0.7 c8nw0.6;EST5EDT,M3.2.0,M11.1.0",
    "America/Indiana/Vincennes=-21007,-18000d,-21600,-18000d,-18000d,-21600,-18000,-14400d;-18y0m00.5 " ++
      "hxltk0.1 ast80.2 7x9g0.1 ast80.2 bmtus0.3 1tz8c0.4 2dsw0.2 asys0.1 7x3w0.2 3fidg0.1 7x3w0.2 " ++
      "asys0.1 7x3w0.2 b5rw0.1 7kas0.2 b5xg0.1 7x3w0.2 asys0.1 7x3w0.2 asys0.1 7x3w0.2 asys0.1 7x3w0.2 " ++
      "asys0.1 9px80.2 9d440.1 7k580.2 b5xg0.1 9cyk0.2 9d440.1 9cyk0.2 9d440.6 2lz980.7 9cyk0.6 9d440.7 " ++
      "9cyk0.6 ihslg0.1 asw00.2 6udg0.1 c8nw0.6 6hc00.7 c8nw0.6 6hes0.7 c8nw0.6 6udg0.7 c8nw0.6 6hes0.7 " ++
      "c8nw0.6 6hes0.7 c8nw0.6 6hes0.7 c8nw0.6 6hes0.7 c8nw0.6 6hes0.7 c8nw0.6 6udg0.7 c8nw0.6 6hes0.7 " ++
      "c8nw0.6 6hes0.7 c8nw0.6 6hes0.7 c8nw0.6 6hes0.7 c8nw0.6 6udg0.7 c8nw0.6 6hes0.7 c8nw0.6 6hes0.7 " ++
      "c8nw0.6 6hes0.7 c8nw0.6 6hes0.7 c8nw0.6 6hes0.7 c8nw0.6 6udg0.7 c8nw0.6 6hes0.7 c8nw0.6 6hes0.7 " ++
      "c8nw0.6 6hes0.7 c8nw0.6 6hes0.7 c8nw0.6 6udg0.7 c8nw0.6 6hes0.7 c8nw0.6 6hes0.7 c8nw0.6 6hes0.7 " ++
      "c8nw0.6 6hes0.7 c8nw0.6 6hes0.7 c8nw0.6;EST5EDT,M3.2.0,M11.1.0",
    "America/Indiana/Winamac=-20785,-18000d,-21600,-18000d,-18000d,-21600,-18000,-14400d;-18y0m00.5 " ++
      "hxltk0.1 ast80.2 7x9g0.1 ast80.2 bmtus0.3 1tz8c0.4 2dsw0.2 asys0.1 7x3w0.2 asys0.1 7x3w0.2 " ++
      "asys0.1 7x3w0.2 asys0.1 7x3w0.2 b5xg0.1 7k580.2 b5xg0.1 7x3w0.2 asys0.1 7x3w0.2 asys0.1 7x3w0.2 " ++
      "asys0.1 7x3w0.2 asys0.1 9px80.2 9d440.1 9cyk0.2 9d440.1 7x3w0.2 asys0.1 7x3w0.2 asys0.1 7x3w0.2 " ++
      "asys0.1 7x3w0.2 b5xg0.6 465h80.7 9cyk0.6 9d440.7 9cyk0.6 ihslg0.1 asw00.2 6udg0.7 c8l40.6 " ++
      "6hes0.7 c8nw0.6 6hes0.7 c8nw0.6 6udg0.7 c8nw0.6 6hes0.7 c8nw0.6 6hes0.7 c8nw0.6 6hes0.7 c8nw0.6 " ++
      "6hes0.7 c8nw0.6 6hes0.7 c8nw0.6 6udg0.7 c8nw0.6 6hes0.7 c8nw0.6 6hes0.7 c8nw0.6 6hes0.7 c8nw0.6 " ++
      "6hes0.7 c8nw0.6 6udg0.7 c8nw0.6 6hes0.7 c8nw0.6 6hes0.7 c8nw0.6 6hes0.7 c8nw0.6 6hes0.7 c8nw0.6 " ++
      "6hes0.7 c8nw0.6 6udg0.7 c8nw0.6 6hes0.7 c8nw0.6 6hes0.7 c8nw0.6 6hes0.7 c8nw0.6 6hes0.7 c8nw0.6 " ++
      "6udg0.7 c8nw0.6 6hes0.7 c8nw0.6 6hes0.7 c8nw0.6 6hes0.7 c8nw0.6 6hes0.7 c8nw0.6 6hes0.7 c8nw0.6;EST5EDT,M3.2.0,M11.1.0",
    "America/Inuvik=0,-25200d,-28800,-25200,-21600d;-8ve5c0.2 a34zs0.1 9cyk0.2 9d440.1 9cyk0.2 " ++
      "9d440.1 9cyk0.2 9d440.1 9cyk0.2 9d440.1 9px80.2 905g0.1 9px80.2 9d440.1 9cyk0.2 9d440.4 9cvs0.3 " ++
      "9d440.4 9cyk0.3 9d440.4 9cyk0.3 9d440.4 9px80.3 905g0.4 9px80.3 9d440.4 9cyk0.3 9d440.4 9cyk0.3 " ++
      "9d440.4 9cyk0.3 8a840.4 afuk0.3 8a840.4 ast80.3 7x9g0.4 ast80.3 7x9g0.4 ast80.3 8a840.4 afuk0.3 " ++
      "8a840.4 afuk0.3 8a840.4 ast80.3 7x9g0.4 ast80.3 7x9g0.4 ast80.3 8a840.4 afuk0.3 8a840.4 afuk0.3 " ++
      "8a840.4 afuk0.3 8a840.4 ast80.3 7x9g0.4 ast80.3 7x9g0.4 ast80.3 8a840.4 afuk0.3 8a840.4 afuk0.3 " ++
      "8a840.4 ast80.3 7x9g0.4 ast80.3 7x9g0.4 ast80.3 6udg0.4 c8nw0.3 6hes0.4 c8nw0.3 6hes0.4 c8nw0.3 " ++
      "6udg0.4 c8nw0.3 6hes0.4 c8nw0.3 6hes0.4 c8nw0.3 6hes0.4 c8nw0.3 6hes0.4 c8nw0.3 6hes0.4 c8nw0.3 " ++
      "6udg0.4 c8nw0.3 6hes0.4 c8nw0.3 6hes0.4 c8nw0.3 6hes0.4 c8nw0.3 6hes0.4 c8nw0.3 6udg0.4 c8nw0.3 " ++
      "6hes0.4 c8nw0.3 6hes0.4 c8nw0.3 6hes0.4 c8nw0.3 6hes0.4 c8nw0.3 6hes0.4 c8nw0.3 6udg0.4 c8nw0.3 " ++
      "6hes0.4 c8nw0.3 6hes0.4 c8nw0.3 6hes0.4 c8nw0.3 6hes0.4 c8nw0.3 6udg0.4 c8nw0.3 6hes0.4 c8nw0.3 " ++
      "6hes0.4 c8nw0.3 6hes0.4 c8nw0.3 6hes0.4 c8nw0.3 6hes0.4 c8nw0.3;MST7MDT,M3.2.0,M11.1.0",
    "America/Iqaluit America/Pangnirtung=0,-14400d,-18000,-14400d,-14400d,-21600,-18000d,-14400d,-18000;-eb6ao0.4 " ++
      "1l3h80.1 2dq40.2 dvfpg0.3 9cyk0.2 9d440.3 9cyk0.2 9d440.3 9cyk0.2 9d440.3 9cyk0.2 9d440.3 " ++
      "9px80.2 905g0.3 9px80.2 9d440.3 9cyk0.2 9d440.3 9cyk0.2 9d440.3 9cyk0.2 9d440.3 9cyk0.2 9d440.3 " ++
      "9px80.2 905g0.3 9px80.2 9d440.3 9cyk0.2 9d440.3 9cyk0.2 9d440.3 9cyk0.2 8a840.3 afuk0.2 8a840.3 " ++
      "ast80.2 7x9g0.3 ast80.2 7x9g0.3 ast80.2 8a840.3 afuk0.2 8a840.3 afuk0.2 8a840.3 ast80.2 7x9g0.3 " ++
      "ast80.2 7x9g0.3 ast80.2 8a840.3 afuk0.2 8a840.3 afuk0.2 8a840.3 afuk0.2 8a840.3 ast80.5 7xc80.6 " ++
      "ast80.2 7x6o0.3 ast80.2 8a840.3 afuk0.2 8a840.3 afuk0.2 8a840.3 ast80.2 7x9g0.3 ast80.2 7x9g0.3 " ++
      "ast80.2 6udg0.3 c8nw0.2 6hes0.3 c8nw0.2 6hes0.3 c8nw0.2 6udg0.3 c8nw0.2 6hes0.3 c8nw0.2 6hes0.3 " ++
      "c8nw0.2 6hes0.3 c8nw0.2 6hes0.3 c8nw0.2 6hes0.3 c8nw0.2 6udg0.3 c8nw0.2 6hes0.3 c8nw0.2 6hes0.3 " ++
      "c8nw0.2 6hes0.3 c8nw0.2 6hes0.3 c8nw0.2 6udg0.3 c8nw0.2 6hes0.3 c8nw0.2 6hes0.3 c8nw0.2 6hes0.3 " ++
      "c8nw0.2 6hes0.3 c8nw0.2 6hes0.3 c8nw0.2 6udg0.3 c8nw0.2 6hes0.3 c8nw0.2 6hes0.3 c8nw0.2 6hes0.3 " ++
      "c8nw0.2 6hes0.3 c8nw0.2 6udg0.3 c8nw0.2 6hes0.3 c8nw0.2 6hes0.3 c8nw0.2 6hes0.3 c8nw0.2 6hes0.3 " ++
      "c8nw0.2 6hes0.3 c8nw0.2;EST5EDT,M3.2.0,M11.1.0",
    "America/Jamaica Jamaica=-18430,-18430,-18000,-14400d;-15r0v42.1 biv6o0.2 wbl182.3 f4d80.2 " ++
      "64g40.3 clmk0.2 9d440.3 9px80.2 905g0.3 9px80.2 9d440.3 9cyk0.2 9d440.3 9cyk0.2 9d440.3 9cyk0.2 " ++
      "9d440.3 9cyk0.2 9d440.3 9px80.2 905g0.3 9px80.2;EST5",
    "America/Juneau=54139,-32261,-28800,-25200d,-25200d,-25200d,-28800d,-32400,-28800d,-32400;-1hc7qjz.1 " ++
      "h4yu44.2 ln707v.3 1tz2s0.4 2dyg0.2 cawis0.5 9cyk0.2 9d440.5 9cyk0.2 9d440.5 9px80.2 9d440.5 " ++
      "9cyk0.2 9d440.5 9cyk0.2 3lpg0.5 f4d80.2 64g40.5 clmk0.2 9d440.5 9px80.2 905g0.5 9px80.2 9d440.5 " ++
      "9cyk0.2 9d440.5 9cyk0.2 9d440.6 9d1c0.2 9d1c0.5 9cyk0.2 9d440.5 9px80.2 905g0.5 9px80.7 1leo0.9 " ++
      "7rs80.8 9cyk0.9 9d440.8 9cyk0.9 9d440.8 9cyk0.9 8a840.8 afuk0.9 8a840.8 ast80.9 7x9g0.8 ast80.9 " ++
      "7x9g0.8 ast80.9 8a840.8 afuk0.9 8a840.8 afuk0.9 8a840.8 ast80.9 7x9g0.8 ast80.9 7x9g0.8 ast80.9 " ++
      "8a840.8 afuk0.9 8a840.8 afuk0.9 8a840.8 afuk0.9 8a840.8 ast80.9 7x9g0.8 ast80.9 7x9g0.8 ast80.9 " ++
      "8a840.8 afuk0.9 8a840.8 afuk0.9 8a840.8 ast80.9 7x9g0.8 ast80.9 7x9g0.8 ast80.9 6udg0.8 c8nw0.9 " ++
      "6hes0.8 c8nw0.9 6hes0.8 c8nw0.9 6udg0.8 c8nw0.9 6hes0.8 c8nw0.9 6hes0.8 c8nw0.9 6hes0.8 c8nw0.9 " ++
      "6hes0.8 c8nw0.9 6hes0.8 c8nw0.9 6udg0.8 c8nw0.9 6hes0.8 c8nw0.9 6hes0.8 c8nw0.9 6hes0.8 c8nw0.9 " ++
      "6hes0.8 c8nw0.9 6udg0.8 c8nw0.9 6hes0.8 c8nw0.9 6hes0.8 c8nw0.9 6hes0.8 c8nw0.9 6hes0.8 c8nw0.9 " ++
      "6hes0.8 c8nw0.9 6udg0.8 c8nw0.9 6hes0.8 c8nw0.9 6hes0.8 c8nw0.9 6hes0.8 c8nw0.9 6hes0.8 c8nw0.9 " ++
      "6udg0.8 c8nw0.9 6hes0.8 c8nw0.9 6hes0.8 c8nw0.9 6hes0.8 c8nw0.9 6hes0.8 c8nw0.9 6hes0.8 c8nw0.9;AKST9AKDT,M3.2.0,M11.1.0",
    "America/Kentucky/Louisville America/Louisville=-20582,-18000d,-21600,-21600,-18000d,-18000d,-18000,-14400d;-18y0m00.3 " ++
      "hxltk0.1 ast80.2 7x9g0.1 ast80.2 sg5g0.1 6bp80.2 a98o40.1 7x3w0.2 6w840.4 1tz8c0.5 2dsw0.2 " ++
      "ast9o.1 1sw2c.2 21gis0.1 7k580.2 b5xg0.1 7x3w0.2 asys0.1 7x3w0.2 asys0.1 7x3w0.2 asys0.1 7x3w0.2 " ++
      "asys0.1 7x3w0.2 b5xg0.1 9cyk0.2 9d440.1 9cyk0.2 9d440.1 9cyk0.2 9d440.1 9cyk0.2 9d440.1 9px80.2 " ++
      "9d440.1 4bh80.6 3j3xc0.7 9cyk0.6 9d440.7 9cyk0.6 9d440.7 9cyk0.6 9d440.7 9px80.6 9d440.7 9cyk0.6 " ++
      "9d440.7 9cyk0.6 3lpg0.1 f4g00.6 64dc0.7 clmk0.6 9d440.7 9px80.6 905g0.7 9px80.6 9d440.7 9cyk0.6 " ++
      "9d440.7 9cyk0.6 9d440.7 9cyk0.6 9d440.7 9cyk0.6 9d440.7 9px80.6 905g0.7 9px80.6 9d440.7 9cyk0.6 " ++
      "9d440.7 9cyk0.6 9d440.7 9cyk0.6 8a840.7 afuk0.6 8a840.7 ast80.6 7x9g0.7 ast80.6 7x9g0.7 ast80.6 " ++
      "8a840.7 afuk0.6 8a840.7 afuk0.6 8a840.7 ast80.6 7x9g0.7 ast80.6 7x9g0.7 ast80.6 8a840.7 afuk0.6 " ++
      "8a840.7 afuk0.6 8a840.7 afuk0.6 8a840.7 ast80.6 7x9g0.7 ast80.6 7x9g0.7 ast80.6 8a840.7 afuk0.6 " ++
      "8a840.7 afuk0.6 8a840.7 ast80.6 7x9g0.7 ast80.6 7x9g0.7 ast80.6 6udg0.7 c8nw0.6 6hes0.7 c8nw0.6 " ++
      "6hes0.7 c8nw0.6 6udg0.7 c8nw0.6 6hes0.7 c8nw0.6 6hes0.7 c8nw0.6 6hes0.7 c8nw0.6 6hes0.7 c8nw0.6 " ++
      "6hes0.7 c8nw0.6 6udg0.7 c8nw0.6 6hes0.7 c8nw0.6 6hes0.7 c8nw0.6 6hes0.7 c8nw0.6 6hes0.7 c8nw0.6 " ++
      "6udg0.7 c8nw0.6 6hes0.7 c8nw0.6 6hes0.7 c8nw0.6 6hes0.7 c8nw0.6 6hes0.7 c8nw0.6 6hes0.7 c8nw0.6 " ++
      "6udg0.7 c8nw0.6 6hes0.7 c8nw0.6 6hes0.7 c8nw0.6 6hes0.7 c8nw0.6 6hes0.7 c8nw0.6 6udg0.7 c8nw0.6 " ++
      "6hes0.7 c8nw0.6 6hes0.7 c8nw0.6 6hes0.7 c8nw0.6 6hes0.7 c8nw0.6 6hes0.7 c8nw0.6;EST5EDT,M3.2.0,M11.1.0",
    "America/Kentucky/Monticello=-20364,-18000d,-21600,-18000d,-18000d,-21600,-14400d,-18000;-18y0m00.5 " ++
      "hxltk0.1 ast80.2 7x9g0.1 ast80.2 bmtus0.3 1tz8c0.4 2dsw0.2 bs6g40.1 9cyk0.2 9d440.1 9cyk0.2 " ++
      "9d440.1 9cyk0.2 9d440.1 9px80.2 9d440.1 9cyk0.2 9d440.1 9cyk0.2 3lpg0.1 f4d80.2 64g40.1 clmk0.2 " ++
      "9d440.1 9px80.2 905g0.1 9px80.2 9d440.1 9cyk0.2 9d440.1 9cyk0.2 9d440.1 9cyk0.2 9d440.1 9cyk0.2 " ++
      "9d440.1 9px80.2 905g0.1 9px80.2 9d440.1 9cyk0.2 9d440.1 9cyk0.2 9d440.1 9cyk0.2 8a840.1 afuk0.2 " ++
      "8a840.1 ast80.2 7x9g0.1 ast80.2 7x9g0.1 ast80.2 8a840.1 afuk0.2 8a840.1 afuk0.2 8a840.1 ast80.2 " ++
      "7x9g0.1 ast80.2 7x9g0.1 ast80.2 8a840.1 afuk0.2 8a840.1 afuk0.2 8a840.1 afuk0.2 8a840.1 ast80.2 " ++
      "7x9g0.1 ast80.7 7x6o0.6 ast80.7 8a840.6 afuk0.7 8a840.6 afuk0.7 8a840.6 ast80.7 7x9g0.6 ast80.7 " ++
      "7x9g0.6 ast80.7 6udg0.6 c8nw0.7 6hes0.6 c8nw0.7 6hes0.6 c8nw0.7 6udg0.6 c8nw0.7 6hes0.6 c8nw0.7 " ++
      "6hes0.6 c8nw0.7 6hes0.6 c8nw0.7 6hes0.6 c8nw0.7 6hes0.6 c8nw0.7 6udg0.6 c8nw0.7 6hes0.6 c8nw0.7 " ++
      "6hes0.6 c8nw0.7 6hes0.6 c8nw0.7 6hes0.6 c8nw0.7 6udg0.6 c8nw0.7 6hes0.6 c8nw0.7 6hes0.6 c8nw0.7 " ++
      "6hes0.6 c8nw0.7 6hes0.6 c8nw0.7 6hes0.6 c8nw0.7 6udg0.6 c8nw0.7 6hes0.6 c8nw0.7 6hes0.6 c8nw0.7 " ++
      "6hes0.6 c8nw0.7 6hes0.6 c8nw0.7 6udg0.6 c8nw0.7 6hes0.6 c8nw0.7 6hes0.6 c8nw0.7 6hes0.6 c8nw0.7 " ++
      "6hes0.6 c8nw0.7 6hes0.6 c8nw0.7;EST5EDT,M3.2.0,M11.1.0",
    "America/Kralendijk America/Lower_Princes America/Marigot America/Puerto_Rico America/St_Barthelemy " ++
      "America/Virgin=-15865,-14400,-10800d,-10800d;-10xhp3b.1 mhp1jb.3 1ppu40.2 2dnc0.1;AST4",
    "America/La_Paz=-16356,-16356,-12756d,-14400;-15r0wpo.1 lt1400.2 84ik0.3 1j8fb57.3;<-04>4",
    "America/Lima=-18492,-18516,-14400d,-18000;-15r0v2c.1 9ov9co.3 fcxjlo.2 4ml80.3 93us0.2 9cyk0.3 " ++
      "9d440.2 9cyk0.3 nw16s0.2 4ml80.3 e5c40.2 4ml80.3 1fr1g0.2 4ml80.3 1yiys0.2 4ml80.3 muzpvj.3;<-05>5",
    "America/Los_Angeles US/Pacific=-28378,-25200d,-28800,-25200d,-25200d,-28800;-18y0gg0.5 hxltk0.1 " ++
      "ast80.2 7x9g0.1 ast80.2 bmtus0.3 1tz2s0.4 2dyg0.2 1a3c5o.1 f2iic.2 owao0.1 7k800.2 b5uo0.1 " ++
      "7x6o0.2 asw00.1 7x6o0.2 asw00.1 7x6o0.2 asw00.1 7x6o0.2 asw00.1 7x6o0.2 b5uo0.1 7x6o0.2 asw00.1 " ++
      "7x6o0.2 asw00.1 7x6o0.2 asw00.1 7x6o0.2 asw00.1 7x6o0.2 b5uo0.1 7k800.2 b5uo0.1 9d1c0.2 9d1c0.1 " ++
      "9d1c0.2 9d1c0.1 9d1c0.2 9d1c0.1 9q000.2 902o0.1 9q000.2 9d440.1 9cyk0.2 9d440.1 9cyk0.2 9d440.1 " ++
      "9cyk0.2 9d440.1 9cyk0.2 9d440.1 9px80.2 9d440.1 9cyk0.2 9d440.1 9cyk0.2 3lpg0.1 f4d80.2 64g40.1 " ++
      "clmk0.2 9d440.1 9px80.2 905g0.1 9px80.2 9d440.1 9cyk0.2 9d440.1 9cyk0.2 9d440.1 9cyk0.2 9d440.1 " ++
      "9cyk0.2 9d440.1 9px80.2 905g0.1 9px80.2 9d440.1 9cyk0.2 9d440.1 9cyk0.2 9d440.1 9cyk0.2 8a840.1 " ++
      "afuk0.2 8a840.1 ast80.2 7x9g0.1 ast80.2 7x9g0.1 ast80.2 8a840.1 afuk0.2 8a840.1 afuk0.2 8a840.1 " ++
      "ast80.2 7x9g0.1 ast80.2 7x9g0.1 ast80.2 8a840.1 afuk0.2 8a840.1 afuk0.2 8a840.1 afuk0.2 8a840.1 " ++
      "ast80.2 7x9g0.1 ast80.2 7x9g0.1 ast80.2 8a840.1 afuk0.2 8a840.1 afuk0.2 8a840.1 ast80.2 7x9g0.1 " ++
      "ast80.2 7x9g0.1 ast80.2 6udg0.1 c8nw0.2 6hes0.1 c8nw0.2 6hes0.1 c8nw0.2 6udg0.1 c8nw0.2 6hes0.1 " ++
      "c8nw0.2 6hes0.1 c8nw0.2 6hes0.1 c8nw0.2 6hes0.1 c8nw0.2 6hes0.1 c8nw0.2 6udg0.1 c8nw0.2 6hes0.1 " ++
      "c8nw0.2 6hes0.1 c8nw0.2 6hes0.1 c8nw0.2 6hes0.1 c8nw0.2 6udg0.1 c8nw0.2 6hes0.1 c8nw0.2 6hes0.1 " ++
      "c8nw0.2 6hes0.1 c8nw0.2 6hes0.1 c8nw0.2 6hes0.1 c8nw0.2 6udg0.1 c8nw0.2 6hes0.1 c8nw0.2 6hes0.1 " ++
      "c8nw0.2 6hes0.1 c8nw0.2 6hes0.1 c8nw0.2 6udg0.1 c8nw0.2 6hes0.1 c8nw0.2 6hes0.1 c8nw0.2 6hes0.1 " ++
      "c8nw0.2 6hes0.1 c8nw0.2 6hes0.1 c8nw0.2;PST8PDT,M3.2.0,M11.1.0",
    "America/Maceio=-8572,-7200d,-10800;-t85ldw.2 99kaxw.1 9a9c0.2 9io40.1 99980.2 8p65g0.1 6zuo0.2 " ++
      "bs2o0.1 67zw0.2 cjxg0.1 69uk0.2 cjxg0.1 4ml80.2 5mf440.1 49mk0.2 haas0.1 316k0.2 cls40.1 4ml80.2 " ++
      "cls40.1 66580.2 cls40.1 67zw0.2 981s40.1 6u7w0.2 biw40.1 5rbw0.2 d0lg0.1 5ed80.2 cyqs0.1 5ed80.2 " ++
      "dbpg0.1 64ak0.2 2yl440.1 64ak0.2 1wf1g0.1 7k580.2 biw40.1 puk0.2 id6s0.1 6h980.2 iqwe3j.2;<-03>3",
    "America/Managua=-20708,-20712,-21600,-18000,-18000d,-21600;-15r0tcs.1 n7jmo4.2 ka1i0o.3 xqqk0.2 " ++
      "24p6s0.4 53980.2 dmtg0.4 53980.2 60itw0.3 dq240.2 53es0.3 235h80.2 4beis0.4 8zzw0.2 at4c0.4 " ++
      "7x140.2;CST6",
    "America/Manaus Brazil/West=-14404,-10800d,-14400;-t85gvw.2 99k97w.1 9a9c0.2 9io40.1 99980.2 " ++
      "8p65g0.1 6zuo0.2 bs2o0.1 67zw0.2 cjxg0.1 69uk0.2 cjxg0.1 4ml80.2 5mf440.1 49mk0.2 haas0.1 " ++
      "316k0.2 cls40.1 4ml80.2 cls40.1 66580.2 cls40.1 67zw0.2 981s40.1 6u7w0.2 biw40.1 5rbw0.2 d0lg0.1 " ++
      "5ed80.2 2yy2s0.1 6h980.2 mx1vbj.2;<-04>4",
    "America/Martinique=-14660,-14660,-14400,-10800d;-15r0y0s.1 b4o2o0.2 zz5x4s.3 8zzw0.2;AST4",
    "America/Matamoros=-23400,-21600,-18000d,-21600;-p1u7c0.1 ykt480.2 ast80.3 3vppg0.2 afuk0.3 " ++
      "8a840.2 afuk0.3 8a840.2 afuk0.3 8a840.2 ast80.3 7x9g0.2 ast80.3 9q2s0.2 7k580.3 9q2s0.2 afuk0.3 " ++
      "8a840.2 afuk0.3 8a840.2 ast80.3 7x9g0.2 ast80.3 7x9g0.2 ast80.3 7x9g0.2 ast80.3 8a840.2 afuk0.3 " ++
      "8a840.2 afuk0.3 77c40.2 c8nw0.3 6hes0.2 c8nw0.3 6hes0.2 c8nw0.3 6hes0.2 c8nw0.3 6hes0.2 c8nw0.3 " ++
      "6hes0.2 c8nw0.3 6udg0.2 c8nw0.3 6hes0.2 c8nw0.3 6hes0.2 c8nw0.3 6hes0.2 c8nw0.3 6hes0.2 c8nw0.3 " ++
      "6udg0.2 c8nw0.3 6hes0.2 c8nw0.3 6hes0.2 c8nw0.3 6hes0.2 c8nw0.3 6hes0.2 c8nw0.3 6hes0.2 c8nw0.3 " ++
      "6udg0.2 c8nw0.3 6hes0.2 c8nw0.3 6hes0.2 c8nw0.3 6hes0.2 c8nw0.3 6hes0.2 c8nw0.3 6udg0.2 c8nw0.3 " ++
      "6hes0.2 c8nw0.3 6hes0.2 c8nw0.3 6hes0.2 c8nw0.3 6hes0.2 c8nw0.3 6hes0.2 c8nw0.3;CST6CDT,M3.2.0,M11.1.0",
    "America/Mazatlan Mexico/BajaSur=-25540,-25200,-21600,-21600d,-25200;-p1u4k0.1 2u5s00.2 1si580.4 " ++
      "8jhg0.3 7x3w0.4 9eys0.2 591h80.4 s5qoc0.3 afuk0.4 8a840.3 afuk0.4 8a840.3 afuk0.4 8a840.3 " ++
      "ast80.4 7x9g0.3 ast80.4 9q2s0.3 7k580.4 9q2s0.3 afuk0.4 8a840.3 afuk0.4 8a840.3 ast80.4 7x9g0.3 " ++
      "ast80.4 7x9g0.3 ast80.4 7x9g0.3 ast80.4 8a840.3 afuk0.4 8a840.3 afuk0.4 8a840.3 ast80.4 7x9g0.3 " ++
      "ast80.4 7x9g0.3 ast80.4 8a840.3 afuk0.4 8a840.3 afuk0.4 8a840.3 afuk0.4 8a840.3 ast80.4 7x9g0.3 " ++
      "ast80.4 7x9g0.3 ast80.4 8a840.3 afuk0.4 8a840.3 afuk0.4 8a840.3 ast80.4 7x9g0.3 ast80.4;MST7",
    "America/Menominee=-21027,-18000d,-21600,-18000d,-18000d,-18000,-21600;-17zjvrx.2 gz53bx.1 " ++
      "ast80.2 7x9g0.1 ast80.2 bmtus0.3 1tz8c0.4 2dsw0.2 asys0.1 7x3w0.2 a7n9g0.1 9px80.2 1at9g0.5 " ++
      "2396k0.1 9d1c0.2 3lpg0.1 f4d80.2 64g40.1 clmk0.2 9d440.1 9px80.2 905g0.1 9px80.2 9d440.1 9cyk0.2 " ++
      "9d440.1 9cyk0.2 9d440.1 9cyk0.2 9d440.1 9cyk0.2 9d440.1 9px80.2 905g0.1 9px80.2 9d440.1 9cyk0.2 " ++
      "9d440.1 9cyk0.2 9d440.1 9cyk0.2 8a840.1 afuk0.2 8a840.1 ast80.2 7x9g0.1 ast80.2 7x9g0.1 ast80.2 " ++
      "8a840.1 afuk0.2 8a840.1 afuk0.2 8a840.1 ast80.2 7x9g0.1 ast80.2 7x9g0.1 ast80.2 8a840.1 afuk0.2 " ++
      "8a840.1 afuk0.2 8a840.1 afuk0.2 8a840.1 ast80.2 7x9g0.1 ast80.2 7x9g0.1 ast80.2 8a840.1 afuk0.2 " ++
      "8a840.1 afuk0.2 8a840.1 ast80.2 7x9g0.1 ast80.2 7x9g0.1 ast80.2 6udg0.1 c8nw0.2 6hes0.1 c8nw0.2 " ++
      "6hes0.1 c8nw0.2 6udg0.1 c8nw0.2 6hes0.1 c8nw0.2 6hes0.1 c8nw0.2 6hes0.1 c8nw0.2 6hes0.1 c8nw0.2 " ++
      "6hes0.1 c8nw0.2 6udg0.1 c8nw0.2 6hes0.1 c8nw0.2 6hes0.1 c8nw0.2 6hes0.1 c8nw0.2 6hes0.1 c8nw0.2 " ++
      "6udg0.1 c8nw0.2 6hes0.1 c8nw0.2 6hes0.1 c8nw0.2 6hes0.1 c8nw0.2 6hes0.1 c8nw0.2 6hes0.1 c8nw0.2 " ++
      "6udg0.1 c8nw0.2 6hes0.1 c8nw0.2 6hes0.1 c8nw0.2 6hes0.1 c8nw0.2 6hes0.1 c8nw0.2 6udg0.1 c8nw0.2 " ++
      "6hes0.1 c8nw0.2 6hes0.1 c8nw0.2 6hes0.1 c8nw0.2 6hes0.1 c8nw0.2 6hes0.1 c8nw0.2;CST6CDT,M3.2.0,M11.1.0",
    "America/Merida=-21508,-21600,-18000,-18000d,-21600;-p1u7c0.1 vb0dk0.2 fzuk0.4 70bes0.3 afuk0.4 " ++
      "8a840.3 afuk0.4 8a840.3 afuk0.4 8a840.3 ast80.4 7x9g0.3 ast80.4 9q2s0.3 7k580.4 9q2s0.3 afuk0.4 " ++
      "8a840.3 afuk0.4 8a840.3 ast80.4 7x9g0.3 ast80.4 7x9g0.3 ast80.4 7x9g0.3 ast80.4 8a840.3 afuk0.4 " ++
      "8a840.3 afuk0.4 8a840.3 ast80.4 7x9g0.3 ast80.4 7x9g0.3 ast80.4 8a840.3 afuk0.4 8a840.3 afuk0.4 " ++
      "8a840.3 afuk0.4 8a840.3 ast80.4 7x9g0.3 ast80.4 7x9g0.3 ast80.4 8a840.3 afuk0.4 8a840.3 afuk0.4 " ++
      "8a840.3 ast80.4 7x9g0.3 ast80.4;CST6",
    "America/Metlakatla=54822,-31578,-28800,-25200d,-25200d,-25200d,-32400,-28800d;-1hc7qjz.1 h4ytl5.2 " ++
      "ln70qu.3 1tz2s0.4 2dyg0.2 cawis0.5 9cyk0.2 9d440.5 9cyk0.2 9d440.5 9px80.2 9d440.5 9cyk0.2 " ++
      "9d440.5 9cyk0.2 3lpg0.5 f4d80.2 64g40.5 clmk0.2 9d440.5 9px80.2 905g0.5 9px80.2 9d440.5 9cyk0.2 " ++
      "9d440.5 9cyk0.2 9d440.5 9cyk0.2 9d440.5 9cyk0.2 9d440.5 9px80.2 905g0.5 9px80.2 gpc840.6 6udg0.7 " ++
      "c8nw0.6 6hes0.7 c8nw0.6 6hes0.7 c8nw0.2 3ylc0.6 2itg0.7 c8nw0.6 6hes0.7 c8nw0.6 6udg0.7 c8nw0.6 " ++
      "6hes0.7 c8nw0.6 6hes0.7 c8nw0.6 6hes0.7 c8nw0.6 6hes0.7 c8nw0.6 6hes0.7 c8nw0.6 6udg0.7 c8nw0.6 " ++
      "6hes0.7 c8nw0.6 6hes0.7 c8nw0.6 6hes0.7 c8nw0.6 6hes0.7 c8nw0.6 6udg0.7 c8nw0.6 6hes0.7 c8nw0.6 " ++
      "6hes0.7 c8nw0.6 6hes0.7 c8nw0.6 6hes0.7 c8nw0.6 6hes0.7 c8nw0.6;AKST9AKDT,M3.2.0,M11.1.0",
    "America/Mexico_City Mexico/General=-23796,-25200,-21600,-21600d,-25200,-18000d,-18000d,-21600;-p1u4k0.1 " ++
      "2u5s00.2 1si580.4 8jhg0.3 7x3w0.4 9eys0.2 3knek0.5 776k0.2 rf440.5 5t6k0.2 1evk40.6 71mk0.2 " ++
      "30p1g0.5 8n180.2 nufxo0.5 afuk0.2 8a840.5 afuk0.2 8a840.5 afuk0.2 8a840.5 ast80.2 7x9g0.5 " ++
      "ast80.2 9q2s0.5 7k580.2 9q2s0.5 afuk0.2 8a840.5 afuk0.2 8a840.5 ast80.2 7x9g0.5 ast80.2 7x9g0.5 " ++
      "ast80.2 7x9g0.5 ast80.2 8a840.5 afuk0.2 8a840.5 afuk0.2 8a840.5 ast80.2 7x9g0.5 ast80.2 7x9g0.5 " ++
      "ast80.2 8a840.5 afuk0.2 8a840.5 afuk0.2 8a840.5 afuk0.2 8a840.5 ast80.2 7x9g0.5 ast80.2 7x9g0.5 " ++
      "ast80.2 8a840.5 afuk0.2 8a840.5 afuk0.2 8a840.5 ast80.2 7x9g0.5 ast80.2;CST6",
    "America/Miquelon=-13480,-14400,-10800,-7200d;-uk1k9k.1 zy4wpk.2 3m59g0.3 afuk0.2 8a840.3 ast80.2 " ++
      "7x9g0.3 ast80.2 7x9g0.3 ast80.2 8a840.3 afuk0.2 8a840.3 afuk0.2 8a840.3 ast80.2 7x9g0.3 ast80.2 " ++
      "7x9g0.3 ast80.2 8a840.3 afuk0.2 8a840.3 afuk0.2 8a840.3 afuk0.2 8a840.3 ast80.2 7x9g0.3 ast80.2 " ++
      "7x9g0.3 ast80.2 8a840.3 afuk0.2 8a840.3 afuk0.2 8a840.3 ast80.2 7x9g0.3 ast80.2 7x9g0.3 ast80.2 " ++
      "6udg0.3 c8nw0.2 6hes0.3 c8nw0.2 6hes0.3 c8nw0.2 6udg0.3 c8nw0.2 6hes0.3 c8nw0.2 6hes0.3 c8nw0.2 " ++
      "6hes0.3 c8nw0.2 6hes0.3 c8nw0.2 6hes0.3 c8nw0.2 6udg0.3 c8nw0.2 6hes0.3 c8nw0.2 6hes0.3 c8nw0.2 " ++
      "6hes0.3 c8nw0.2 6hes0.3 c8nw0.2 6udg0.3 c8nw0.2 6hes0.3 c8nw0.2 6hes0.3 c8nw0.2 6hes0.3 c8nw0.2 " ++
      "6hes0.3 c8nw0.2 6hes0.3 c8nw0.2 6udg0.3 c8nw0.2 6hes0.3 c8nw0.2 6hes0.3 c8nw0.2 6hes0.3 c8nw0.2 " ++
      "6hes0.3 c8nw0.2 6udg0.3 c8nw0.2 6hes0.3 c8nw0.2 6hes0.3 c8nw0.2 6hes0.3 c8nw0.2 6hes0.3 c8nw0.2 " ++
      "6hes0.3 c8nw0.2 428jj.2;<-03>3<-02>,M3.2.0,M11.1.0",
    "America/Moncton=-15548,-18000,-10800d,-14400,-10800d,-10800d;-18wys04.1 9nu9w4.3 89fhg0.2 " ++
      "a2vw0.3 7mqqo0.2 4ofw0.3 e1ms0.2 4ofw0.3 e1ms0.2 4ofw0.3 e1ms0.2 4ofw0.3 e1ms0.2 4ofw0.3 e1ms0.2 " ++
      "4ofw0.3 dmtg0.2 64ak0.3 cao40.2 6fek0.3 bkqs0.2 7iak0.3 6y5k0.4 1tzdw0.5 2dnc0.3 asys0.2 7x3w0.3 " ++
      "asys0.2 7x3w0.3 asys0.2 7x3w0.3 asys0.2 7x3w0.3 b5xg0.2 7k580.3 b5xg0.2 7x3w0.3 asys0.2 7x3w0.3 " ++
      "asys0.2 7x3w0.3 asys0.2 7x3w0.3 asys0.2 7x3w0.3 b5xg0.2 7x3w0.3 asys0.2 9cyk0.3 9d440.2 9cyk0.3 " ++
      "9d440.2 9cyk0.3 9d440.2 9px80.3 9d440.2 9cyk0.3 9d440.2 9cyk0.3 9d440.2 9cyk0.3 9d440.2 9cyk0.3 " ++
      "9d440.2 9px80.3 905g0.2 9px80.3 9d440.2 9cyk0.3 9d440.2 9cyk0.3 9d440.2 9cyk0.3 9d440.2 9cyk0.3 " ++
      "9d440.2 9px80.3 9d440.2 9cyk0.3 s36s0.2 9cyk0.3 9d440.2 9cyk0.3 9d440.2 9px80.3 905g0.2 9px80.3 " ++
      "9d440.2 9cyk0.3 9d440.2 9cyk0.3 9d440.2 9cyk0.3 9d440.2 9cyk0.3 9d440.2 9px80.3 905g0.2 9px80.3 " ++
      "9d440.2 9cyk0.3 9d440.2 9cyk0.3 9d440.2 9cyk0.3 8a840.2 afuk0.3 8a840.2 ast80.3 7x9g0.2 ast80.3 " ++
      "7x9g0.2 ast80.3 8a840.2 afuk0.3 8a840.2 afuk0.3 8a2lo.2 ast80.3 7x9g0.2 ast80.3 7x9g0.2 ast80.3 " ++
      "8a840.2 afuk0.3 8a840.2 afuk0.3 8a840.2 afuk0.3 8a840.2 ast80.3 7x9g0.2 ast80.3 7x9g0.2 ast80.3 " ++
      "8a840.2 afuk0.3 8a840.2 afuk0.3 8a840.2 ast80.3 7x9g0.2 ast80.3 7x9g0.2 ast80.3 6uiyc.2 c8nw0.3 " ++
      "6hes0.2 c8nw0.3 6hes0.2 c8nw0.3 6udg0.2 c8nw0.3 6hes0.2 c8nw0.3 6hes0.2 c8nw0.3 6hes0.2 c8nw0.3 " ++
      "6hes0.2 c8nw0.3 6hes0.2 c8nw0.3 6udg0.2 c8nw0.3 6hes0.2 c8nw0.3 6hes0.2 c8nw0.3 6hes0.2 c8nw0.3 " ++
      "6hes0.2 c8nw0.3 6udg0.2 c8nw0.3 6hes0.2 c8nw0.3 6hes0.2 c8nw0.3 6hes0.2 c8nw0.3 6hes0.2 c8nw0.3 " ++
      "6hes0.2 c8nw0.3 6udg0.2 c8nw0.3 6hes0.2 c8nw0.3 6hes0.2 c8nw0.3 6hes0.2 c8nw0.3 6hes0.2 c8nw0.3 " ++
      "6udg0.2 c8nw0.3 6hes0.2 c8nw0.3 6hes0.2 c8nw0.3 6hes0.2 c8nw0.3 6hes0.2 c8nw0.3 6hes0.2 c8nw0.3;AST4ADT,M3.2.0,M11.1.0",
    "America/Monterrey=-24076,-25200,-21600,-21600d,-25200,-18000d,-21600;-p1u7c0.1 2u5us0.2 1si580.4 " ++
      "8jhg0.3 7x3w0.4 9eys0.2 t89k40.5 ast80.2 3vppg0.5 afuk0.2 8a840.5 afuk0.2 8a840.5 afuk0.2 " ++
      "8a840.5 ast80.2 7x9g0.5 ast80.2 9q2s0.5 7k580.2 9q2s0.5 afuk0.2 8a840.5 afuk0.2 8a840.5 ast80.2 " ++
      "7x9g0.5 ast80.2 7x9g0.5 ast80.2 7x9g0.5 ast80.2 8a840.5 afuk0.2 8a840.5 afuk0.2 8a840.5 ast80.2 " ++
      "7x9g0.5 ast80.2 7x9g0.5 ast80.2 8a840.5 afuk0.2 8a840.5 afuk0.2 8a840.5 afuk0.2 8a840.5 ast80.2 " ++
      "7x9g0.5 ast80.2 7x9g0.5 ast80.2 8a840.5 afuk0.2 8a840.5 afuk0.2 8a840.5 ast80.2 7x9g0.5 ast80.2;CST6",
    "America/Montevideo=-13491,-13491,-14400,-12600,-10800d,-10800,-9000d,-7200d,-5400d,-7200d;-w4mll9.1 " ++
      "67elc0.2 1s74p9.4 9et80.3 9exe0.4 9czy0.3 9exe0.4 9czy0.3 3ydyq0.4 7x5a0.3 asxe0.4 7x5a0.3 " ++
      "asxe0.4 7x5a0.3 asxe0.4 7x5a0.3 b5w20.4 7k6m0.3 b5w20.4 7k6m0.3 9q1e0.4 9czy0.3 asxe0.4 7x5a0.3 " ++
      "6do20.4 ppvy0.6 4mmm0.5 8g9qq0.6 901a0.5 38pe0.7 2inw0.5 2nf9g0.7 8zzw0.5 1e3s40.6 9o3y0.5 " ++
      "q8he0.7 2kik0.5 yxhg0.7 4bh80.5 s36s0.8 2vl60.6 905g0.5 5rg20.7 51ek0.5 weqs0.7 3yik0.5 e1ms0.7 " ++
      "4ofw0.5 erk40.7 3yik0.5 2vs40.7 gk7w0.5 41iys0.7 3wnw0.5 erk40.7 4bh80.5 c8tg0.7 64ak0.5 c8tg0.7 " ++
      "6u7w0.5 c8tg0.7 6h980.5 bvus0.7 6u7w0.5 614qs0.7 9q2s0.5 a31g0.7 7x3w0.5 ag040.7 8a2k0.5 asys0.7 " ++
      "7x3w0.5 asys0.7 7x3w0.5 asys0.7 8a2k0.5 ag040.7 8a2k0.5 ag040.7 8a2k0.5 asys0.7 7x3w0.5 asys0.7 " ++
      "7x3w0.5 asys0.7 7x3w0.5 bxogjj.5;<-03>3",
    "America/Montreal America/Nipigon America/Thunder_Bay America/Toronto Canada/Eastern=-19052,-14400d,-18000,-14400d,-14400" ++
      "d;-1353das.2 c5efes.1 a2vw0.2 7yx60.1 aqzy0.2 9q8c0.1 7jzo0.2 bw0c0.1 6bp80.2 cedg0.1 6h980.2 " ++
      "c8tg0.1 6h980.2 bvus0.1 776k0.2 biw40.1 776k0.2 biw40.1 776k0.2 biw40.1 7k580.2 b5xg0.1 7x3w0.2 " ++
      "asys0.1 7x3w0.2 asys0.1 7x3w0.2 asys0.1 7x3w0.2 b5xg0.1 7k580.2 b5xg0.1 7x3w0.2 asys0.1 7x3w0.2 " ++
      "asys0.1 7x3w0.2 asys0.1 7x3w0.2 asys0.1 7x3w0.2 asys0.1 7x3w0.2 b5xg0.1 7k580.2 b5xg0.1 xjeo0.3 " ++
      "1tzb40.4 2dq40.2 asys0.1 7x3w0.2 asys0.1 7x3w0.2 asys0.1 7x3w0.2 asys0.1 b5rw0.2 7x9g0.1 ast80.2 " ++
      "7x9g0.1 7x3w0.2 asys0.1 7x3w0.2 asys0.1 7x3w0.2 asys0.1 7x3w0.2 asys0.1 7x3w0.2 b5xg0.1 7x3w0.2 " ++
      "asys0.1 9cyk0.2 9d440.1 9cyk0.2 9d440.1 9cyk0.2 9d440.1 9px80.2 9d440.1 9cyk0.2 9d440.1 9cyk0.2 " ++
      "9d440.1 9cyk0.2 9d440.1 9cyk0.2 9d440.1 9px80.2 905g0.1 9px80.2 9d440.1 9cyk0.2 9d440.1 9cyk0.2 " ++
      "9d440.1 9cyk0.2 9d440.1 9cyk0.2 9d440.1 9px80.2 9d440.1 9cyk0.2 9d440.1 9cyk0.2 9d440.1 9cyk0.2 " ++
      "9d440.1 9cyk0.2 9d440.1 9px80.2 905g0.1 9px80.2 9d440.1 9cyk0.2 9d440.1 9cyk0.2 9d440.1 9cyk0.2 " ++
      "9d440.1 9cyk0.2 9d440.1 9px80.2 905g0.1 9px80.2 9d440.1 9cyk0.2 9d440.1 9cyk0.2 9d440.1 9cyk0.2 " ++
      "8a840.1 afuk0.2 8a840.1 ast80.2 7x9g0.1 ast80.2 7x9g0.1 ast80.2 8a840.1 afuk0.2 8a840.1 afuk0.2 " ++
      "8a840.1 ast80.2 7x9g0.1 ast80.2 7x9g0.1 ast80.2 8a840.1 afuk0.2 8a840.1 afuk0.2 8a840.1 afuk0.2 " ++
      "8a840.1 ast80.2 7x9g0.1 ast80.2 7x9g0.1 ast80.2 8a840.1 afuk0.2 8a840.1 afuk0.2 8a840.1 ast80.2 " ++
      "7x9g0.1 ast80.2 7x9g0.1 ast80.2 6udg0.1 c8nw0.2 6hes0.1 c8nw0.2 6hes0.1 c8nw0.2 6udg0.1 c8nw0.2 " ++
      "6hes0.1 c8nw0.2 6hes0.1 c8nw0.2 6hes0.1 c8nw0.2 6hes0.1 c8nw0.2 6hes0.1 c8nw0.2 6udg0.1 c8nw0.2 " ++
      "6hes0.1 c8nw0.2 6hes0.1 c8nw0.2 6hes0.1 c8nw0.2 6hes0.1 c8nw0.2 6udg0.1 c8nw0.2 6hes0.1 c8nw0.2 " ++
      "6hes0.1 c8nw0.2 6hes0.1 c8nw0.2 6hes0.1 c8nw0.2 6hes0.1 c8nw0.2 6udg0.1 c8nw0.2 6hes0.1 c8nw0.2 " ++
      "6hes0.1 c8nw0.2 6hes0.1 c8nw0.2 6hes0.1 c8nw0.2 6udg0.1 c8nw0.2 6hes0.1 c8nw0.2 6hes0.1 c8nw0.2 " ++
      "6hes0.1 c8nw0.2 6hes0.1 c8nw0.2 6hes0.1 c8nw0.2;EST5EDT,M3.2.0,M11.1.0",
    "America/Montserrat=-14932,-14400;-uj7wfk.1;AST4",
    "America/Nassau=-18570,-14400d,-18000,-14400d,-14400d;-u6m4c6.2 fqrow6.1 1e5h80.2 1lhg0.1 a0nc0.3 " ++
      "3awk0.2 9o00c0.4 9cyk0.2 9d440.4 9px80.2 905g0.4 9px80.2 9d440.4 9cyk0.2 9d440.4 9cyk0.2 9d440.4 " ++
      "9cyk0.2 9d440.4 9cyk0.2 9d440.4 9px80.2 9d440.4 9cyk0.2 9d440.4 9cyk0.2 9d440.4 9cyk0.2 9d440.4 " ++
      "9cyk0.2 9d440.4 9px80.2 905g0.4 9px80.2 9d440.4 9cyk0.2 9d440.4 9cyk0.2 9d440.4 9cyk0.2 9d440.4 " ++
      "9cyk0.2 9d440.4 9px80.2 905g0.4 9px80.2 9d440.4 9cyk0.2 9d440.4 9cyk0.2 9d440.4 9cyk0.2 8a840.4 " ++
      "afuk0.2 8a840.4 ast80.2 7x9g0.4 ast80.2 7x9g0.4 ast80.2 8a840.4 afuk0.2 8a840.4 afuk0.2 8a840.4 " ++
      "ast80.2 7x9g0.4 ast80.2 7x9g0.4 ast80.2 8a840.4 afuk0.2 8a840.4 afuk0.2 8a840.4 afuk0.2 8a840.4 " ++
      "ast80.2 7x9g0.4 ast80.2 7x9g0.4 ast80.2 8a840.4 afuk0.2 8a840.4 afuk0.2 8a840.4 ast80.2 7x9g0.4 " ++
      "ast80.2 7x9g0.4 ast80.2 6udg0.4 c8nw0.2 6hes0.4 c8nw0.2 6hes0.4 c8nw0.2 6udg0.4 c8nw0.2 6hes0.4 " ++
      "c8nw0.2 6hes0.4 c8nw0.2 6hes0.4 c8nw0.2 6hes0.4 c8nw0.2 6hes0.4 c8nw0.2 6udg0.4 c8nw0.2 6hes0.4 " ++
      "c8nw0.2 6hes0.4 c8nw0.2 6hes0.4 c8nw0.2 6hes0.4 c8nw0.2 6udg0.4 c8nw0.2 6hes0.4 c8nw0.2 6hes0.4 " ++
      "c8nw0.2 6hes0.4 c8nw0.2 6hes0.4 c8nw0.2 6hes0.4 c8nw0.2 6udg0.4 c8nw0.2 6hes0.4 c8nw0.2 6hes0.4 " ++
      "c8nw0.2 6hes0.4 c8nw0.2 6hes0.4 c8nw0.2 6udg0.4 c8nw0.2 6hes0.4 c8nw0.2 6hes0.4 c8nw0.2 6hes0.4 " ++
      "c8nw0.2 6hes0.4 c8nw0.2 6hes0.4 c8nw0.2;EST5EDT,M3.2.0,M11.1.0",
    "America/New_York US/Eastern posixrules=-17762,-14400d,-18000,-18000,-14400d,-14400d;-18y0os0.3 " ++
      "hxltk0.1 ast80.2 7x9g0.1 ast80.2 7x9g0.1 b5rw0.2 905g0.1 7x3w0.2 b5xg0.1 7k580.2 b5xg0.1 7x3w0.2 " ++
      "asys0.1 7x3w0.2 asys0.1 7x3w0.2 asys0.1 7x3w0.2 asys0.1 7x3w0.2 b5xg0.1 7x3w0.2 asys0.1 7x3w0.2 " ++
      "asys0.1 7x3w0.2 asys0.1 7x3w0.2 asys0.1 7x3w0.2 b5xg0.1 7k580.2 b5xg0.1 7x3w0.2 asys0.1 7x3w0.2 " ++
      "asys0.1 7x3w0.2 asys0.1 7x3w0.2 asys0.1 7x3w0.2 b5xg0.1 7k580.2 b5xg0.1 7x3w0.2 asys0.1 7x3w0.2 " ++
      "6w840.4 1tzb40.5 2dq40.2 asys0.1 7x3w0.2 asys0.1 7x3w0.2 asys0.1 7x3w0.2 asys0.1 7x3w0.2 b5xg0.1 " ++
      "7k580.2 b5xg0.1 7x3w0.2 asys0.1 7x3w0.2 asys0.1 7x3w0.2 asys0.1 7x3w0.2 asys0.1 9px80.2 9d440.1 " ++
      "9cyk0.2 9d440.1 9cyk0.2 9d440.1 9cyk0.2 9d440.1 9cyk0.2 9d440.1 9px80.2 9d440.1 9cyk0.2 9d440.1 " ++
      "9cyk0.2 9d440.1 9cyk0.2 9d440.1 9cyk0.2 9d440.1 9px80.2 905g0.1 9px80.2 9d440.1 9cyk0.2 9d440.1 " ++
      "9cyk0.2 9d440.1 9cyk0.2 9d440.1 9cyk0.2 9d440.1 9px80.2 9d440.1 9cyk0.2 9d440.1 9cyk0.2 3lpg0.1 " ++
      "f4d80.2 64g40.1 clmk0.2 9d440.1 9px80.2 905g0.1 9px80.2 9d440.1 9cyk0.2 9d440.1 9cyk0.2 9d440.1 " ++
      "9cyk0.2 9d440.1 9cyk0.2 9d440.1 9px80.2 905g0.1 9px80.2 9d440.1 9cyk0.2 9d440.1 9cyk0.2 9d440.1 " ++
      "9cyk0.2 8a840.1 afuk0.2 8a840.1 ast80.2 7x9g0.1 ast80.2 7x9g0.1 ast80.2 8a840.1 afuk0.2 8a840.1 " ++
      "afuk0.2 8a840.1 ast80.2 7x9g0.1 ast80.2 7x9g0.1 ast80.2 8a840.1 afuk0.2 8a840.1 afuk0.2 8a840.1 " ++
      "afuk0.2 8a840.1 ast80.2 7x9g0.1 ast80.2 7x9g0.1 ast80.2 8a840.1 afuk0.2 8a840.1 afuk0.2 8a840.1 " ++
      "ast80.2 7x9g0.1 ast80.2 7x9g0.1 ast80.2 6udg0.1 c8nw0.2 6hes0.1 c8nw0.2 6hes0.1 c8nw0.2 6udg0.1 " ++
      "c8nw0.2 6hes0.1 c8nw0.2 6hes0.1 c8nw0.2 6hes0.1 c8nw0.2 6hes0.1 c8nw0.2 6hes0.1 c8nw0.2 6udg0.1 " ++
      "c8nw0.2 6hes0.1 c8nw0.2 6hes0.1 c8nw0.2 6hes0.1 c8nw0.2 6hes0.1 c8nw0.2 6udg0.1 c8nw0.2 6hes0.1 " ++
      "c8nw0.2 6hes0.1 c8nw0.2 6hes0.1 c8nw0.2 6hes0.1 c8nw0.2 6hes0.1 c8nw0.2 6udg0.1 c8nw0.2 6hes0.1 " ++
      "c8nw0.2 6hes0.1 c8nw0.2 6hes0.1 c8nw0.2 6hes0.1 c8nw0.2 6udg0.1 c8nw0.2 6hes0.1 c8nw0.2 6hes0.1 " ++
      "c8nw0.2 6hes0.1 c8nw0.2 6hes0.1 c8nw0.2 6hes0.1 c8nw0.2;EST5EDT,M3.2.0,M11.1.0",
    "America/Nome=46702,-39698,-39600,-36000d,-36000d,-39600,-36000d,-32400,-28800d,-32400;-1hc7qjz.1 " ++
      "h4yzup.2 ln72ta.3 1tyug0.4 2e6s0.2 b7yik0.5 12y080.6 9cyk0.5 9d440.6 9cyk0.5 9d440.6 9px80.5 " ++
      "9d440.6 9cyk0.5 9d440.6 9cyk0.5 3lpg0.6 f4d80.5 64g40.6 clmk0.5 9d440.6 9px80.5 905g0.6 9px80.5 " ++
      "9d440.6 9cyk0.5 9d440.6 9cyk0.5 9d440.6 9cyk0.5 9d440.6 9cyk0.5 9d440.6 9px80.5 905g0.6 9px80.7 " ++
      "1l6c0.9 7rs80.8 9cyk0.9 9d440.8 9cyk0.9 9d440.8 9cyk0.9 8a840.8 afuk0.9 8a840.8 ast80.9 7x9g0.8 " ++
      "ast80.9 7x9g0.8 ast80.9 8a840.8 afuk0.9 8a840.8 afuk0.9 8a840.8 ast80.9 7x9g0.8 ast80.9 7x9g0.8 " ++
      "ast80.9 8a840.8 afuk0.9 8a840.8 afuk0.9 8a840.8 afuk0.9 8a840.8 ast80.9 7x9g0.8 ast80.9 7x9g0.8 " ++
      "ast80.9 8a840.8 afuk0.9 8a840.8 afuk0.9 8a840.8 ast80.9 7x9g0.8 ast80.9 7x9g0.8 ast80.9 6udg0.8 " ++
      "c8nw0.9 6hes0.8 c8nw0.9 6hes0.8 c8nw0.9 6udg0.8 c8nw0.9 6hes0.8 c8nw0.9 6hes0.8 c8nw0.9 6hes0.8 " ++
      "c8nw0.9 6hes0.8 c8nw0.9 6hes0.8 c8nw0.9 6udg0.8 c8nw0.9 6hes0.8 c8nw0.9 6hes0.8 c8nw0.9 6hes0.8 " ++
      "c8nw0.9 6hes0.8 c8nw0.9 6udg0.8 c8nw0.9 6hes0.8 c8nw0.9 6hes0.8 c8nw0.9 6hes0.8 c8nw0.9 6hes0.8 " ++
      "c8nw0.9 6hes0.8 c8nw0.9 6udg0.8 c8nw0.9 6hes0.8 c8nw0.9 6hes0.8 c8nw0.9 6hes0.8 c8nw0.9 6hes0.8 " ++
      "c8nw0.9 6udg0.8 c8nw0.9 6hes0.8 c8nw0.9 6hes0.8 c8nw0.9 6hes0.8 c8nw0.9 6hes0.8 c8nw0.9 6hes0.8 " ++
      "c8nw0.9;AKST9AKDT,M3.2.0,M11.1.0",
    "America/Noronha Brazil/DeNoronha=-7780,-3600d,-7200;-t85lzw.2 99k8rw.1 9a9c0.2 9io40.1 99980.2 " ++
      "8p65g0.1 6zuo0.2 bs2o0.1 67zw0.2 cjxg0.1 69uk0.2 cjxg0.1 4ml80.2 5mf440.1 49mk0.2 haas0.1 " ++
      "316k0.2 cls40.1 4ml80.2 cls40.1 66580.2 cls40.1 67zw0.2 981s40.1 6u7w0.2 biw40.1 5rbw0.2 d0lg0.1 " ++
      "5ed80.2 cyqs0.1 5ed80.2 dbpg0.1 64ak0.2 514g40.1 7k580.2 biw40.1 cvw0.2 iq5g0.1 6h980.2 iqwgvj.2;<-02>2",
    "America/North_Dakota/Beulah=-24427,-21600d,-25200,-21600d,-21600d,-25200,-18000d,-21600;-18y0j80.5 " ++
      "hxltk0.1 ast80.2 7x9g0.1 ast80.2 bmtus0.3 1tz5k0.4 2dvo0.2 b9gdg0.1 9cyk0.2 9d440.1 9cyk0.2 " ++
      "9d440.1 9cyk0.2 9d440.1 9cyk0.2 9d440.1 9px80.2 9d440.1 9cyk0.2 9d440.1 9cyk0.2 3lpg0.1 f4d80.2 " ++
      "64g40.1 clmk0.2 9d440.1 9px80.2 905g0.1 9px80.2 9d440.1 9cyk0.2 9d440.1 9cyk0.2 9d440.1 9cyk0.2 " ++
      "9d440.1 9cyk0.2 9d440.1 9px80.2 905g0.1 9px80.2 9d440.1 9cyk0.2 9d440.1 9cyk0.2 9d440.1 9cyk0.2 " ++
      "8a840.1 afuk0.2 8a840.1 ast80.2 7x9g0.1 ast80.2 7x9g0.1 ast80.2 8a840.1 afuk0.2 8a840.1 afuk0.2 " ++
      "8a840.1 ast80.2 7x9g0.1 ast80.2 7x9g0.1 ast80.2 8a840.1 afuk0.2 8a840.1 afuk0.2 8a840.1 afuk0.2 " ++
      "8a840.1 ast80.2 7x9g0.1 ast80.2 7x9g0.1 ast80.2 8a840.1 afuk0.2 8a840.1 afuk0.2 8a840.1 ast80.2 " ++
      "7x9g0.1 ast80.2 7x9g0.1 ast80.2 6udg0.1 c8nw0.2 6hes0.1 c8nw0.2 6hes0.1 c8nw0.2 6udg0.1 c8nw0.7 " ++
      "6hc00.6 c8nw0.7 6hes0.6 c8nw0.7 6hes0.6 c8nw0.7 6hes0.6 c8nw0.7 6hes0.6 c8nw0.7 6udg0.6 c8nw0.7 " ++
      "6hes0.6 c8nw0.7 6hes0.6 c8nw0.7 6hes0.6 c8nw0.7 6hes0.6 c8nw0.7 6udg0.6 c8nw0.7 6hes0.6 c8nw0.7 " ++
      "6hes0.6 c8nw0.7 6hes0.6 c8nw0.7 6hes0.6 c8nw0.7 6hes0.6 c8nw0.7 6udg0.6 c8nw0.7 6hes0.6 c8nw0.7 " ++
      "6hes0.6 c8nw0.7 6hes0.6 c8nw0.7 6hes0.6 c8nw0.7 6udg0.6 c8nw0.7 6hes0.6 c8nw0.7 6hes0.6 c8nw0.7 " ++
      "6hes0.6 c8nw0.7 6hes0.6 c8nw0.7 6hes0.6 c8nw0.7;CST6CDT,M3.2.0,M11.1.0",
    "America/North_Dakota/Center=-24312,-21600d,-25200,-21600d,-21600d,-25200,-18000d,-21600;-18y0j80.5 " ++
      "hxltk0.1 ast80.2 7x9g0.1 ast80.2 bmtus0.3 1tz5k0.4 2dvo0.2 b9gdg0.1 9cyk0.2 9d440.1 9cyk0.2 " ++
      "9d440.1 9cyk0.2 9d440.1 9cyk0.2 9d440.1 9px80.2 9d440.1 9cyk0.2 9d440.1 9cyk0.2 3lpg0.1 f4d80.2 " ++
      "64g40.1 clmk0.2 9d440.1 9px80.2 905g0.1 9px80.2 9d440.1 9cyk0.2 9d440.1 9cyk0.2 9d440.1 9cyk0.2 " ++
      "9d440.1 9cyk0.2 9d440.1 9px80.2 905g0.1 9px80.2 9d440.1 9cyk0.2 9d440.1 9cyk0.2 9d440.1 9cyk0.2 " ++
      "8a840.1 afuk0.2 8a840.1 ast80.2 7x9g0.1 ast80.2 7x9g0.1 ast80.2 8a840.1 afuk0.2 8a840.1 afuk0.7 " ++
      "8a5c0.6 ast80.7 7x9g0.6 ast80.7 7x9g0.6 ast80.7 8a840.6 afuk0.7 8a840.6 afuk0.7 8a840.6 afuk0.7 " ++
      "8a840.6 ast80.7 7x9g0.6 ast80.7 7x9g0.6 ast80.7 8a840.6 afuk0.7 8a840.6 afuk0.7 8a840.6 ast80.7 " ++
      "7x9g0.6 ast80.7 7x9g0.6 ast80.7 6udg0.6 c8nw0.7 6hes0.6 c8nw0.7 6hes0.6 c8nw0.7 6udg0.6 c8nw0.7 " ++
      "6hes0.6 c8nw0.7 6hes0.6 c8nw0.7 6hes0.6 c8nw0.7 6hes0.6 c8nw0.7 6hes0.6 c8nw0.7 6udg0.6 c8nw0.7 " ++
      "6hes0.6 c8nw0.7 6hes0.6 c8nw0.7 6hes0.6 c8nw0.7 6hes0.6 c8nw0.7 6udg0.6 c8nw0.7 6hes0.6 c8nw0.7 " ++
      "6hes0.6 c8nw0.7 6hes0.6 c8nw0.7 6hes0.6 c8nw0.7 6hes0.6 c8nw0.7 6udg0.6 c8nw0.7 6hes0.6 c8nw0.7 " ++
      "6hes0.6 c8nw0.7 6hes0.6 c8nw0.7 6hes0.6 c8nw0.7 6udg0.6 c8nw0.7 6hes0.6 c8nw0.7 6hes0.6 c8nw0.7 " ++
      "6hes0.6 c8nw0.7 6hes0.6 c8nw0.7 6hes0.6 c8nw0.7;CST6CDT,M3.2.0,M11.1.0",
    "America/North_Dakota/New_Salem=-24339,-21600d,-25200,-21600d,-21600d,-25200,-18000d,-21600;-18y0j80.5 " ++
      "hxltk0.1 ast80.2 7x9g0.1 ast80.2 bmtus0.3 1tz5k0.4 2dvo0.2 b9gdg0.1 9cyk0.2 9d440.1 9cyk0.2 " ++
      "9d440.1 9cyk0.2 9d440.1 9cyk0.2 9d440.1 9px80.2 9d440.1 9cyk0.2 9d440.1 9cyk0.2 3lpg0.1 f4d80.2 " ++
      "64g40.1 clmk0.2 9d440.1 9px80.2 905g0.1 9px80.2 9d440.1 9cyk0.2 9d440.1 9cyk0.2 9d440.1 9cyk0.2 " ++
      "9d440.1 9cyk0.2 9d440.1 9px80.2 905g0.1 9px80.2 9d440.1 9cyk0.2 9d440.1 9cyk0.2 9d440.1 9cyk0.2 " ++
      "8a840.1 afuk0.2 8a840.1 ast80.2 7x9g0.1 ast80.2 7x9g0.1 ast80.2 8a840.1 afuk0.2 8a840.1 afuk0.2 " ++
      "8a840.1 ast80.2 7x9g0.1 ast80.2 7x9g0.1 ast80.2 8a840.1 afuk0.2 8a840.1 afuk0.2 8a840.1 afuk0.2 " ++
      "8a840.1 ast80.2 7x9g0.1 ast80.2 7x9g0.1 ast80.2 8a840.1 afuk0.2 8a840.1 afuk0.7 8a5c0.6 ast80.7 " ++
      "7x9g0.6 ast80.7 7x9g0.6 ast80.7 6udg0.6 c8nw0.7 6hes0.6 c8nw0.7 6hes0.6 c8nw0.7 6udg0.6 c8nw0.7 " ++
      "6hes0.6 c8nw0.7 6hes0.6 c8nw0.7 6hes0.6 c8nw0.7 6hes0.6 c8nw0.7 6hes0.6 c8nw0.7 6udg0.6 c8nw0.7 " ++
      "6hes0.6 c8nw0.7 6hes0.6 c8nw0.7 6hes0.6 c8nw0.7 6hes0.6 c8nw0.7 6udg0.6 c8nw0.7 6hes0.6 c8nw0.7 " ++
      "6hes0.6 c8nw0.7 6hes0.6 c8nw0.7 6hes0.6 c8nw0.7 6hes0.6 c8nw0.7 6udg0.6 c8nw0.7 6hes0.6 c8nw0.7 " ++
      "6hes0.6 c8nw0.7 6hes0.6 c8nw0.7 6hes0.6 c8nw0.7 6udg0.6 c8nw0.7 6hes0.6 c8nw0.7 6hes0.6 c8nw0.7 " ++
      "6hes0.6 c8nw0.7 6hes0.6 c8nw0.7 6hes0.6 c8nw0.7;CST6CDT,M3.2.0,M11.1.0",
    "America/Ojinaga=-25060,-25200,-21600,-21600d,-25200,-18000d,-21600;-p1u4k0.1 2u5s00.2 1si580.4 " ++
      "8jhg0.3 7x3w0.4 9eys0.2 xes2s0.5 afuk0.2 8a840.5 afuk0.2 8aaw0.3 afuk0.4 8a840.3 ast80.4 7x9g0.3 " ++
      "ast80.4 9q2s0.3 7k580.4 9q2s0.3 afuk0.4 8a840.3 afuk0.4 8a840.3 ast80.4 7x9g0.3 ast80.4 7x9g0.3 " ++
      "ast80.4 7x9g0.3 ast80.4 8a840.3 afuk0.4 8a840.3 afuk0.4 77c40.3 c8nw0.4 6hes0.3 c8nw0.4 6hes0.3 " ++
      "c8nw0.4 6hes0.3 c8nw0.4 6hes0.3 c8nw0.4 6hes0.3 c8nw0.4 6udg0.3 c8nw0.4 6hes0.3 c8nw0.4 6hes0.3 " ++
      "c8nw0.4 6hes0.3 c8nw0.4 6hes0.3 c8nw0.4 6udg0.3 c8nw0.4 6hes0.3 bvp80.2 6uao0.5 c8nw0.2 6hes0.5 " ++
      "c8nw0.2 6hes0.5 c8nw0.2 6hes0.5 c8nw0.2 6udg0.5 c8nw0.2 6hes0.5 c8nw0.2 6hes0.5 c8nw0.2 6hes0.5 " ++
      "c8nw0.2 6hes0.5 c8nw0.2 6udg0.5 c8nw0.2 6hes0.5 c8nw0.2 6hes0.5 c8nw0.2 6hes0.5 c8nw0.2 6hes0.5 " ++
      "c8nw0.2 6hes0.5 c8nw0.2;CST6CDT,M3.2.0,M11.1.0",
    "America/Paramaribo=-13240,-13252,-13236,-12600,-10800;-usj4g8.1 cixc0c.2 5lydbk.3 kcrm6c.4 " ++
      "rtftxj.4;<-03>3",
    "America/Phoenix US/Arizona=-26898,-21600d,-25200,-21600d,-25200;-18y0j80.4 hxltk0.1 ast80.2 " ++
      "7x9g0.1 ast80.2 bmtus0.3 zjedo.2 4olg0.3 9et80.2 bs6lmc.1 9cyk0.2;MST7",
    "America/Port-au-Prince=-17360,-17340,-14400d,-18000,-14400d,-18000;-15r0vxs.1 e4gmng.3 ylcf6c.2 " ++
      "8zzw0.3 9d440.2 9cyk0.3 9d440.2 9cyk0.3 9d440.2 9cyk0.3 9d440.2 9cyk0.3 8aaw0.4 asw00.5 7x6o0.4 " ++
      "asw00.5 7x6o0.4 asw00.5 8a5c0.4 afxc0.5 8a5c0.4 afxc0.5 8a5c0.4 asw00.5 7x6o0.4 asw00.5 7x6o0.4 " ++
      "asw00.5 8a5c0.4 afxc0.5 8a5c0.4 afxc0.5 3vpjw0.2 ast80.3 7x9g0.2 ast80.3 2stv00.2 c8nw0.3 " ++
      "6hes0.2 c8nw0.3 6hes0.2 c8nw0.3 6hes0.2 c8nw0.3 pkg40.2 c8nw0.3 6hes0.2 c8nw0.3 6hes0.2 c8nw0.3 " ++
      "6hes0.2 c8nw0.3 6udg0.2 c8nw0.3 6hes0.2 c8nw0.3 6hes0.2 c8nw0.3 6hes0.2 c8nw0.3 6hes0.2 c8nw0.3 " ++
      "6hes0.2 c8nw0.3 6udg0.2 c8nw0.3 6hes0.2 c8nw0.3 6hes0.2 c8nw0.3 6hes0.2 c8nw0.3 6hes0.2 c8nw0.3 " ++
      "6udg0.2 c8nw0.3 6hes0.2 c8nw0.3 6hes0.2 c8nw0.3 6hes0.2 c8nw0.3 6hes0.2 c8nw0.3 6hes0.2 c8nw0.3;EST5EDT,M3.2.0,M11.1.0",
    "America/Port_of_Spain=-14764,-14400;-u6m79w.1;AST4",
    "America/Porto_Acre America/Rio_Branco Brazil/Acre=-16272,-14400d,-18000,-14400,-18000;-t85fg0.2 " ++
      "99kak0.1 9a9c0.2 9io40.1 99980.2 8p65g0.1 6zuo0.2 bs2o0.1 67zw0.2 cjxg0.1 69uk0.2 cjxg0.1 " ++
      "4ml80.2 5mf440.1 49mk0.2 haas0.1 316k0.2 cls40.1 4ml80.2 cls40.1 66580.2 cls40.1 67zw0.2 981s40.1 " ++
      "6u7w0.2 biw40.1 5rbw0.2 d0lg0.1 5ed80.2 amves0.3 2t2t80.2 cmiwjj.2;<-05>5",
    "America/Porto_Velho=-15336,-10800d,-14400;-t85g60.2 99k8i0.1 9a9c0.2 9io40.1 99980.2 8p65g0.1 " ++
      "6zuo0.2 bs2o0.1 67zw0.2 cjxg0.1 69uk0.2 cjxg0.1 4ml80.2 5mf440.1 49mk0.2 haas0.1 316k0.2 cls40.1 " ++
      "4ml80.2 cls40.1 66580.2 cls40.1 67zw0.2 981s40.1 6u7w0.2 biw40.1 5rbw0.2 d0lg0.1 5ed80.2 q2h7bj.2;<-04>4",
    "America/Punta_Arenas=-17020,-16965,-18000,-14400,-14400d,-10800d,-14400,-10800;-15r0w78.1 " ++
      "ag6lah.2 3dlssr.1 157b79.3 f4e0r.1 49hzb9.4 aye0r.2 7ves0.4 awik0.2 7ves0.4 awik0.2 7ves0.4 " ++
      "awik0.2 7ves0.4 ayd80.2 7ves0.3 534ik0.2 351g0.3 24lbw0.4 b25c0.2 2mg00.3 b73400.5 7k580.6 " ++
      "c8tg0.5 6h980.6 a31g0.5 7x3w0.6 asys0.5 7x3w0.6 b5xg0.5 7k580.6 ag040.5 8a2k0.6 b5xg0.5 7k580.6 " ++
      "b5xg0.5 7x3w0.6 asys0.5 7x3w0.6 asys0.5 7x3w0.6 b5xg0.5 7k580.6 b5xg0.5 7k580.6 b5xg0.5 7x3w0.6 " ++
      "asys0.5 7x3w0.6 asys0.5 7x3w0.6 asys0.5 7x3w0.6 b5xg0.5 7k580.6 b5xg0.5 7k580.6 b5xg0.5 9cyk0.6 " ++
      "9d440.5 7x3w0.6 asys0.5 7x3w0.6 b5xg0.5 7k580.6 9q2s0.5 8zzw0.6 b5xg0.5 7x3w0.6 asys0.5 7x3w0.6 " ++
      "asys0.5 7x3w0.6 asys0.5 7x3w0.6 b5xg0.5 7k580.6 b5xg0.5 8n180.6 a31g0.5 7x3w0.6 a31g0.5 9px80.6 " ++
      "9q2s0.5 7x3w0.6 b5xg0.5 7k580.6 b5xg0.5 7k580.6 b5xg0.5 7k580.6 b5xg0.5 7x3w0.6 asys0.5 7x3w0.6 " ++
      "asys0.5 7x3w0.6 b5xg0.5 7k580.6 b5xg0.5 8n180.6 a31g0.5 7x3w0.6 asys0.5 8zzw0.6 9q2s0.5 ast80.6 " ++
      "5eis0.5 cyl80.6 6hes0.5 c8nw0.6 6udg0.5 bvp80.6 6udg0.5 vonw0.6 4olg0.5 5rbw0.7 b0wwnj.7;<-03>3",
    "America/Rainy_River America/Winnipeg Canada/Central=-23316,-18000d,-21600,-18000d,-18000d,-18000d,-21600;-171bfcc.2 " ++
      "f0j80c.1 7k580.2 tj700.1 a2vw0.2 9ok840.1 6u7w0.2 2a5hg0.3 1tz8c0.4 2dsw0.2 biw40.1 7x3w0.2 " ++
      "a31g0.1 7x3w0.2 asys0.1 7x3w0.2 asys0.1 7x3w0.2 b7s40.1 7tek0.2 autg0.1 7x3w0.2 asys0.1 7x3w0.2 " ++
      "asys0.1 7x3w0.2 asys0.1 7x3w0.2 asys0.1 7x3w0.2 b5xg0.1 7x3w0.2 asys0.1 7x3w0.2 asys0.1 7x3w0.2 " ++
      "asys0.1 9cyk0.2 9d440.1 7x3w0.2 1cm2s0.1 7k580.2 1cm2s0.5 9q000.6 9d1c0.5 9d1c0.6 9d1c0.5 " ++
      "9d1c0.6 9d1c0.5 9d1c0.6 9d1c0.5 9d1c0.6 9d1c0.5 9q000.6 9d1c0.5 9d1c0.6 9d1c0.5 9d1c0.6 9d1c0.5 " ++
      "9d1c0.6 9d1c0.5 9d1c0.6 9d1c0.5 9q000.6 902o0.5 9q000.6 9d1c0.5 9d1c0.6 9d1c0.5 9d1c0.6 9d1c0.5 " ++
      "9d1c0.6 9d1c0.5 9d1c0.6 9d1c0.5 9q000.6 902o0.5 9q000.6 9d1c0.5 9d1c0.6 9d1c0.5 9d1c0.6 9d1c0.5 " ++
      "9d1c0.6 8a5c0.5 afxc0.6 8a5c0.5 asw00.6 7x6o0.5 asw00.6 7x6o0.5 asw00.6 8a5c0.5 afxc0.6 8a5c0.5 " ++
      "afxc0.6 8a5c0.5 asw00.6 7x6o0.5 asw00.6 7x6o0.5 asw00.6 8a5c0.5 afxc0.6 8a5c0.5 afxc0.6 8a5c0.5 " ++
      "afxc0.6 8a5c0.5 asw00.6 7x6o0.5 asw00.6 7x6o0.5 asw00.6 8a5c0.5 afxc0.6 8a5c0.5 afxc0.6 8a5c0.5 " ++
      "asw00.6 7x6o0.5 asw00.6 7x6o0.1 ast80.2 6udg0.1 c8nw0.2 6hes0.1 c8nw0.2 6hes0.1 c8nw0.2 6udg0.1 " ++
      "c8nw0.2 6hes0.1 c8nw0.2 6hes0.1 c8nw0.2 6hes0.1 c8nw0.2 6hes0.1 c8nw0.2 6hes0.1 c8nw0.2 6udg0.1 " ++
      "c8nw0.2 6hes0.1 c8nw0.2 6hes0.1 c8nw0.2 6hes0.1 c8nw0.2 6hes0.1 c8nw0.2 6udg0.1 c8nw0.2 6hes0.1 " ++
      "c8nw0.2 6hes0.1 c8nw0.2 6hes0.1 c8nw0.2 6hes0.1 c8nw0.2 6hes0.1 c8nw0.2 6udg0.1 c8nw0.2 6hes0.1 " ++
      "c8nw0.2 6hes0.1 c8nw0.2 6hes0.1 c8nw0.2 6hes0.1 c8nw0.2 6udg0.1 c8nw0.2 6hes0.1 c8nw0.2 6hes0.1 " ++
      "c8nw0.2 6hes0.1 c8nw0.2 6hes0.1 c8nw0.2 6hes0.1 c8nw0.2;CST6CDT,M3.2.0,M11.1.0",
    "America/Rankin_Inlet=0,-18000d,-21600,-18000,-21600;-6s8lc0.2 7zza80.1 9cyk0.2 9d440.1 9cyk0.2 " ++
      "9d440.1 9cyk0.2 9d440.1 9cyk0.2 9d440.1 9px80.2 905g0.1 9px80.2 9d440.1 9cyk0.2 9d440.1 9cyk0.2 " ++
      "9d440.1 9cyk0.2 9d440.1 9cyk0.2 9d440.1 9px80.2 905g0.1 9px80.2 9d440.1 9cyk0.2 9d440.1 9cyk0.2 " ++
      "9d440.1 9cyk0.2 8a840.1 afuk0.2 8a840.1 ast80.2 7x9g0.1 ast80.2 7x9g0.1 ast80.2 8a840.1 afuk0.2 " ++
      "8a840.1 afuk0.2 8a840.1 ast80.2 7x9g0.1 ast80.2 7x9g0.1 ast80.2 8a840.1 afuk0.2 8a840.1 afuk0.2 " ++
      "8a840.1 afuk0.2 8a840.1 ast80.2 7x9g0.1 ast80.3 7x9g0.1 ast80.2 8a840.1 afuk0.2 8a840.1 afuk0.2 " ++
      "8a840.1 ast80.2 7x9g0.1 ast80.2 7x9g0.1 ast80.2 6udg0.1 c8nw0.2 6hes0.1 c8nw0.2 6hes0.1 c8nw0.2 " ++
      "6udg0.1 c8nw0.2 6hes0.1 c8nw0.2 6hes0.1 c8nw0.2 6hes0.1 c8nw0.2 6hes0.1 c8nw0.2 6hes0.1 c8nw0.2 " ++
      "6udg0.1 c8nw0.2 6hes0.1 c8nw0.2 6hes0.1 c8nw0.2 6hes0.1 c8nw0.2 6hes0.1 c8nw0.2 6udg0.1 c8nw0.2 " ++
      "6hes0.1 c8nw0.2 6hes0.1 c8nw0.2 6hes0.1 c8nw0.2 6hes0.1 c8nw0.2 6hes0.1 c8nw0.2 6udg0.1 c8nw0.2 " ++
      "6hes0.1 c8nw0.2 6hes0.1 c8nw0.2 6hes0.1 c8nw0.2 6hes0.1 c8nw0.2 6udg0.1 c8nw0.2 6hes0.1 c8nw0.2 " ++
      "6hes0.1 c8nw0.2 6hes0.1 c8nw0.2 6hes0.1 c8nw0.2 6hes0.1 c8nw0.2;CST6CDT,M3.2.0,M11.1.0",
    "America/Recife=-8376,-7200d,-10800;-t85ljc.2 99kb3c.1 9a9c0.2 9io40.1 99980.2 8p65g0.1 6zuo0.2 " ++
      "bs2o0.1 67zw0.2 cjxg0.1 69uk0.2 cjxg0.1 4ml80.2 5mf440.1 49mk0.2 haas0.1 316k0.2 cls40.1 4ml80.2 " ++
      "cls40.1 66580.2 cls40.1 67zw0.2 981s40.1 6u7w0.2 biw40.1 5rbw0.2 d0lg0.1 5ed80.2 cyqs0.1 5ed80.2 " ++
      "dbpg0.1 64ak0.2 514g40.1 7k580.2 biw40.1 cvw0.2 iq5g0.1 6h980.2 iqwe3j.2;<-03>3",
    "America/Regina Canada/Saskatchewan=-25116,-21600d,-25200,-21600d,-21600d,-21600;-xkq9yc.2 " ++
      "6l1hmc.1 a2vw0.2 60enw0.1 7x3w0.2 asys0.1 7x3w0.2 asys0.1 7x3w0.2 b5xg0.1 7k580.2 b5xg0.1 " ++
      "7x3w0.2 1b6840.1 9cyk0.2 9d440.1 8zzw0.2 9q2s0.1 9cyk0.2 9q2s0.1 9cyk0.2 9d440.1 9cyk0.2 66gc0.3 " ++
      "1tz5k0.4 2dvo0.2 a31g0.1 9cyk0.2 a31g0.1 7x3w0.2 asys0.1 7x3w0.2 asys0.1 7x3w0.2 b5xg0.1 7k580.2 " ++
      "b5xg0.1 7x3w0.2 asys0.1 7x3w0.2 asys0.1 7x3w0.2 asys0.1 7x3w0.2 asys0.1 7x3w0.2 b5xg0.1 7x3w0.2 " ++
      "asys0.1 7x3w0.2 tj1g0.1 9cyk0.2 9d440.5;CST6",
    "America/Resolute=0,-18000d,-21600,-18000,-21600;-bnp9c0.2 cvfy80.1 9cyk0.2 9d440.1 9cyk0.2 " ++
      "9d440.1 9cyk0.2 9d440.1 9cyk0.2 9d440.1 9px80.2 905g0.1 9px80.2 9d440.1 9cyk0.2 9d440.1 9cyk0.2 " ++
      "9d440.1 9cyk0.2 9d440.1 9cyk0.2 9d440.1 9px80.2 905g0.1 9px80.2 9d440.1 9cyk0.2 9d440.1 9cyk0.2 " ++
      "9d440.1 9cyk0.2 8a840.1 afuk0.2 8a840.1 ast80.2 7x9g0.1 ast80.2 7x9g0.1 ast80.2 8a840.1 afuk0.2 " ++
      "8a840.1 afuk0.2 8a840.1 ast80.2 7x9g0.1 ast80.2 7x9g0.1 ast80.2 8a840.1 afuk0.2 8a840.1 afuk0.2 " ++
      "8a840.1 afuk0.2 8a840.1 ast80.2 7x9g0.1 ast80.3 7x9g0.1 ast80.2 8a840.1 afuk0.2 8a840.1 afuk0.2 " ++
      "8a840.1 ast80.2 7x9g0.1 ast80.2 7x9g0.1 ast80.3 6udg0.1 c8nw0.2 6hes0.1 c8nw0.2 6hes0.1 c8nw0.2 " ++
      "6udg0.1 c8nw0.2 6hes0.1 c8nw0.2 6hes0.1 c8nw0.2 6hes0.1 c8nw0.2 6hes0.1 c8nw0.2 6hes0.1 c8nw0.2 " ++
      "6udg0.1 c8nw0.2 6hes0.1 c8nw0.2 6hes0.1 c8nw0.2 6hes0.1 c8nw0.2 6hes0.1 c8nw0.2 6udg0.1 c8nw0.2 " ++
      "6hes0.1 c8nw0.2 6hes0.1 c8nw0.2 6hes0.1 c8nw0.2 6hes0.1 c8nw0.2 6hes0.1 c8nw0.2 6udg0.1 c8nw0.2 " ++
      "6hes0.1 c8nw0.2 6hes0.1 c8nw0.2 6hes0.1 c8nw0.2 6hes0.1 c8nw0.2 6udg0.1 c8nw0.2 6hes0.1 c8nw0.2 " ++
      "6hes0.1 c8nw0.2 6hes0.1 c8nw0.2 6hes0.1 c8nw0.2 6hes0.1 c8nw0.2;CST6CDT,M3.2.0,M11.1.0",
    "America/Santarem=-13128,-10800d,-14400,-10800;-t85hvc.2 99ka7c.1 9a9c0.2 9io40.1 99980.2 8p65g0.1 " ++
      "6zuo0.2 bs2o0.1 67zw0.2 cjxg0.1 69uk0.2 cjxg0.1 4ml80.2 5mf440.1 49mk0.2 haas0.1 316k0.2 cls40.1 " ++
      "4ml80.2 cls40.1 66580.2 cls40.1 67zw0.2 981s40.1 6u7w0.2 biw40.1 5rbw0.2 d0lg0.1 5ed80.2 amves0.3 " ++
      "fflsjj.3;<-03>3",
    "America/Santiago Chile/Continental=-16965,-16965,-18000,-14400,-14400d,-10800d,-10800d,-14400;-15r0w8r.1 " ++
      "ag6lc0.2 3dlssr.1 157b79.3 f4e0r.1 49hzb9.4 aye0r.2 7ves0.4 awik0.2 7ves0.4 awik0.2 7ves0.4 " ++
      "awik0.2 7ves0.4 ayd80.2 7ves0.3 534ik0.2 351g0.3 229zw0.5 2b980.4 b2840.2 2mg00.3 b73400.6 " ++
      "7k580.7 c8tg0.6 6h980.7 a31g0.6 7x3w0.7 asys0.6 7x3w0.7 b5xg0.6 7k580.7 ag040.6 8a2k0.7 b5xg0.6 " ++
      "7k580.7 b5xg0.6 7x3w0.7 asys0.6 7x3w0.7 asys0.6 7x3w0.7 b5xg0.6 7k580.7 b5xg0.6 7k580.7 b5xg0.6 " ++
      "7x3w0.7 asys0.6 7x3w0.7 asys0.6 7x3w0.7 asys0.6 7x3w0.7 b5xg0.6 7k580.7 b5xg0.6 7k580.7 b5xg0.6 " ++
      "9cyk0.7 9d440.6 7x3w0.7 asys0.6 7x3w0.7 b5xg0.6 7k580.7 9q2s0.6 8zzw0.7 b5xg0.6 7x3w0.7 asys0.6 " ++
      "7x3w0.7 asys0.6 7x3w0.7 asys0.6 7x3w0.7 b5xg0.6 7k580.7 b5xg0.6 8n180.7 a31g0.6 7x3w0.7 a31g0.6 " ++
      "9px80.7 9q2s0.6 7x3w0.7 b5xg0.6 7k580.7 b5xg0.6 7k580.7 b5xg0.6 7k580.7 b5xg0.6 7x3w0.7 asys0.6 " ++
      "7x3w0.7 asys0.6 7x3w0.7 b5xg0.6 7k580.7 b5xg0.6 8n180.7 a31g0.6 7x3w0.7 asys0.6 8zzw0.7 9q2s0.6 " ++
      "ast80.7 5eis0.6 cyl80.7 6hes0.6 c8nw0.7 6udg0.6 bvp80.7 6udg0.6 vonw0.7 4olg0.6 e1h80.7 4olg0.6 " ++
      "e1h80.7 4olg0.6 c8nw0.7 7x9g0.6 ast80.7 7x9g0.6 ast80.7 7x9g0.6 ast80.7 8a840.6 afuk0.7 7x9g0.6 " ++
      "b5rw0.7 7x9g0.6 ast80.7 7x9g0.6 ast80.7 7x9g0.6 ast80.7 7x9g0.6 ast80.7 7x9g0.6 b5rw0.7 7kas0.6 " ++
      "b5rw0.7 7x9g0.6 ast80.7 7x9g0.6 ast80.7 7x9g0.6 ast80.7 7x9g0.6 ast80.7 7x9g0.6 b5rw0.7 7kas0.6 " ++
      "b5rw0.7 7x9g0.6 ast80.7 7x9g0.6 6xxvj.6;<-04>4<-03>,M9.1.6/24,M4.1.6/24",
    "America/Santo_Domingo=-16776,-16800,-14400d,-18000,-16200d,-14400;-15r0we0.1 mkixco.3 hiw29c.2 " ++
      "67zw0.3 1dy840.4 62ha0.3 cnle0.4 4h2m0.3 elyq0.4 47ta0.3 ei9e0.4 4bim0.3 eek20.4 4dda0.3 ecpe0.5 " ++
      "dkmtg0.3 1stc0.5;AST4",
    "America/Sao_Paulo Brazil/East=-11188,-7200d,-10800;-t85jd8.2 99k8x8.1 9a9c0.2 9io40.1 99980.2 " ++
      "8p65g0.1 6zuo0.2 bs2o0.1 67zw0.2 cjxg0.1 69uk0.2 cjxg0.1 4ml80.2 5k02s0.1 6onw0.2 haas0.1 " ++
      "316k0.2 cls40.1 4ml80.2 cls40.1 66580.2 cls40.1 67zw0.2 981s40.1 6u7w0.2 biw40.1 5rbw0.2 d0lg0.1 " ++
      "5ed80.2 cyqs0.1 5ed80.2 dbpg0.1 64ak0.2 cyqs0.1 64ak0.2 cls40.1 5rbw0.2 dbpg0.1 51ek0.2 dbpg0.1 " ++
      "6h980.2 c8tg0.1 6h980.2 c8tg0.1 64ak0.2 c8tg0.1 6u7w0.2 bxpg0.1 7iak0.2 biw40.1 6u7w0.2 biw40.1 " ++
      "7k580.2 biw40.1 6u7w0.2 c8tg0.1 6h980.2 dbpg0.1 5ed80.2 cls40.1 64ak0.2 dfes0.1 5nmk0.2 c8tg0.1 " ++
      "6h980.2 dbpg0.1 5rbw0.2 bvus0.1 6h980.2 cls40.1 64ak0.2 cls40.1 6h980.2 c8tg0.1 6h980.2 c8tg0.1 " ++
      "6u7w0.2 c8tg0.1 64ak0.2 cls40.1 64ak0.2 cls40.1 6h980.2 c8tg0.1 6h980.2 c8tg0.1 6h980.2 c8tg0.1 " ++
      "6h980.2 dbpg0.1 5ed80.2 9vi8rj.2;<-03>3",
    "America/Scoresbysund=-5272,-7200,-3600d,-7200,-3600,0d,0d,-3600d,-7200;-rvurxk.1 x8ntpk.2 " ++
      "902o0.3 9cvs0.6 9cyk0.4 9d1c0.5 9d1c0.4 9d1c0.5 9d1c0.4 9d1c0.5 9q000.4 9d1c0.5 9d1c0.4 9d1c0.5 " ++
      "9d1c0.4 9d1c0.5 9d1c0.4 9d1c0.5 9d1c0.4 9d1c0.5 9d1c0.4 9d1c0.5 9q000.4 9d1c0.5 9d1c0.4 9d1c0.5 " ++
      "9d1c0.4 9d1c0.5 9d1c0.4 9d1c0.5 9d1c0.4 9d1c0.5 9d1c0.4 9q000.5 asw00.4 7x6o0.5 asw00.4 7x6o0.5 " ++
      "asw00.4 7x6o0.5 b5uo0.4 7k800.5 b5uo0.4 7k800.5 b5uo0.4 7x6o0.5 asw00.4 7x6o0.5 asw00.4 7x6o0.5 " ++
      "b5uo0.4 7k800.5 b5uo0.4 7k800.5 b5uo0.4 7k800.5 b5uo0.4 7x6o0.5 asw00.4 7x6o0.5 asw00.4 7x6o0.5 " ++
      "b5uo0.4 7k800.5 b5uo0.4 7k800.5 b5uo0.4 7x6o0.5 asw00.4 7x6o0.5 asw00.4 7x6o0.5 asw00.4 7x6o0.5 " ++
      "b5uo0.4 7k800.5 b5uo0.4 7k800.5 b5uo0.4 7x6o0.5 asw00.4 7x6o0.5 asw00.4 7x6o0.5 b5uo0.4 7k800.5 " ++
      "b5uo0.4 7k800.5 b5uo0.4 7x6o0.7 asw00.8 7x6o0.7 asw00.8 7x6o0.7 asw00.8 7x6o0.7 b5uo0.8 7k800.7 " ++
      "b5uo0.8 7k800.7 b5uo0.8 7x6o0.7 asw00.8 7x6o0.7 asw00.8 7x6o0.7 b5uo0.8 7k800.7 b5uo0.8 7k800.7 " ++
      "b5uo0.8 7k800.7 b5uo0.8 7x6o0.7 asw00.8 7x6o0.7 asw00.8 4ffjj.8;<-02>2<-01>,M3.5.0/-1,M10.5.0/0",
    "America/Sitka=53927,-32473,-28800,-25200d,-25200d,-25200d,-32400,-28800d,-32400;-1hc7qjz.1 " ++
      "h4yua0.2 ln701z.3 1tz2s0.4 2dyg0.2 cawis0.5 9cyk0.2 9d440.5 9cyk0.2 9d440.5 9px80.2 9d440.5 " ++
      "9cyk0.2 9d440.5 9cyk0.2 3lpg0.5 f4d80.2 64g40.5 clmk0.2 9d440.5 9px80.2 905g0.5 9px80.2 9d440.5 " ++
      "9cyk0.2 9d440.5 9cyk0.2 9d440.5 9cyk0.2 9d440.5 9cyk0.2 9d440.5 9px80.2 905g0.5 9px80.6 1leo0.8 " ++
      "7rs80.7 9cyk0.8 9d440.7 9cyk0.8 9d440.7 9cyk0.8 8a840.7 afuk0.8 8a840.7 ast80.8 7x9g0.7 ast80.8 " ++
      "7x9g0.7 ast80.8 8a840.7 afuk0.8 8a840.7 afuk0.8 8a840.7 ast80.8 7x9g0.7 ast80.8 7x9g0.7 ast80.8 " ++
      "8a840.7 afuk0.8 8a840.7 afuk0.8 8a840.7 afuk0.8 8a840.7 ast80.8 7x9g0.7 ast80.8 7x9g0.7 ast80.8 " ++
      "8a840.7 afuk0.8 8a840.7 afuk0.8 8a840.7 ast80.8 7x9g0.7 ast80.8 7x9g0.7 ast80.8 6udg0.7 c8nw0.8 " ++
      "6hes0.7 c8nw0.8 6hes0.7 c8nw0.8 6udg0.7 c8nw0.8 6hes0.7 c8nw0.8 6hes0.7 c8nw0.8 6hes0.7 c8nw0.8 " ++
      "6hes0.7 c8nw0.8 6hes0.7 c8nw0.8 6udg0.7 c8nw0.8 6hes0.7 c8nw0.8 6hes0.7 c8nw0.8 6hes0.7 c8nw0.8 " ++
      "6hes0.7 c8nw0.8 6udg0.7 c8nw0.8 6hes0.7 c8nw0.8 6hes0.7 c8nw0.8 6hes0.7 c8nw0.8 6hes0.7 c8nw0.8 " ++
      "6hes0.7 c8nw0.8 6udg0.7 c8nw0.8 6hes0.7 c8nw0.8 6hes0.7 c8nw0.8 6hes0.7 c8nw0.8 6hes0.7 c8nw0.8 " ++
      "6udg0.7 c8nw0.8 6hes0.7 c8nw0.8 6hes0.7 c8nw0.8 6hes0.7 c8nw0.8 6hes0.7 c8nw0.8 6hes0.7 c8nw0.8;AKST9AKDT,M3.2.0,M11.1.0",
    "America/St_Johns Canada/Newfoundland=-12652,-9052d,-12652,-9000d,-12600,-9000d,-9000d,-5400d,-9000d;-18vs8wk.2 " ++
      "hd05k0.1 8bx80.2 ar440.1 a2vw0.2 9tjs0.1 53980.2 dkys0.1 9cyk0.2 9d440.1 9cyk0.2 9q2s0.1 8zzw0.2 " ++
      "9q2s0.1 8zzw0.2 9q2s0.1 8zzw0.2 9q2s0.1 8zzw0.2 9q2s0.1 9cyk0.2 9d440.1 9cyk0.2 9q2s0.1 8zzw0.2 " ++
      "9q2s0.1 8zzw0.2 9q2s0.1 8zzw0.2 9q2s0.1 8zzw0.2 9q2s0.1 9cyk0.2 9q2s0.1 8zzw0.2 9q2s0.1 8zzw0.2 " ++
      "7tmw0.4 1wfuk.3 8zzw0.4 a3480.3 7k580.4 b5xg0.3 7k580.4 b5xg0.3 7k580.4 biw40.3 776k0.4 biw40.3 " ++
      "7k580.4 b5xg0.3 7k580.4 b5xg0.6 1pb260.5 2dly0.4 biw40.3 7k580.4 b5xg0.3 7k580.4 b5xg0.3 7k580.4 " ++
      "b5xg0.3 7k580.4 biw40.3 7k580.4 ag040.3 7x3w0.4 asys0.3 7x3w0.4 asys0.3 7x3w0.4 asys0.3 7x3w0.4 " ++
      "asys0.3 7x3w0.4 b5xg0.3 7x3w0.4 asys0.3 7x3w0.4 asys0.3 7x3w0.4 asys0.3 7x3w0.4 asys0.3 9px80.4 " ++
      "9d440.3 9cyk0.4 9d440.3 9cyk0.4 9d440.3 9cyk0.4 9d440.3 9cyk0.4 9d440.3 9px80.4 905g0.3 9px80.4 " ++
      "9d440.3 9cyk0.4 9d440.3 9cyk0.4 9d440.3 9cyk0.4 9d440.3 9cyk0.4 9d440.3 9px80.4 9d440.3 9cyk0.4 " ++
      "9d440.3 9cyk0.4 9d440.3 9cyk0.4 9d440.3 9cyk0.4 9d440.3 9px80.4 905g0.3 9px80.4 9d440.3 9cyk0.4 " ++
      "9d440.3 9cyk0.4 9d440.3 9cyk0.4 9d440.3 9cyk0.4 9d440.3 9px80.4 905g0.3 9px80.4 9d440.3 9cyk0.4 " ++
      "9d440.3 9cyk0.4 9d440.3 9cyk0.4 8a2lo.3 afuk0.4 8a840.7 asqg0.4 7xc80.3 ast80.4 7x9g0.3 ast80.4 " ++
      "8a840.3 afuk0.4 8a840.3 afuk0.4 8a840.3 ast80.4 7x9g0.3 ast80.4 7x9g0.3 ast80.4 8a840.3 afuk0.4 " ++
      "8a840.3 afuk0.4 8a840.3 afuk0.4 8a840.3 ast80.4 7x9g0.3 ast80.4 7x9g0.3 ast80.4 8a840.3 afuk0.4 " ++
      "8a840.3 afuk0.4 8a840.3 ast80.4 7x9g0.3 ast80.4 7x9g0.3 ast80.4 6udg0.3 c8nw0.4 6hes0.3 c8nw0.4 " ++
      "6hes0.3 c8nw0.4 6udg0.3 c8nw0.4 6hes0.3 c8tec.4 6hes0.3 c8nw0.4 6hes0.3 c8nw0.4 6hes0.3 c8nw0.4 " ++
      "6hes0.3 c8nw0.4 6udg0.3 c8nw0.4 6hes0.3 c8nw0.4 6hes0.3 c8nw0.4 6hes0.3 c8nw0.4 6hes0.3 c8nw0.4 " ++
      "6udg0.3 c8nw0.4 6hes0.3 c8nw0.4 6hes0.3 c8nw0.4 6hes0.3 c8nw0.4 6hes0.3 c8nw0.4 6hes0.3 c8nw0.4 " ++
      "6udg0.3 c8nw0.4 6hes0.3 c8nw0.4 6hes0.3 c8nw0.4 6hes0.3 c8nw0.4 6hes0.3 c8nw0.4 6udg0.3 c8nw0.4 " ++
      "6hes0.3 c8nw0.4 6hes0.3 c8nw0.4 6hes0.3 c8nw0.4 6hes0.3 c8nw0.4 6hes0.3 c8nw0.4;NST3:30NDT,M3.2.0,M11.1.0",
    "America/St_Kitts=-15052,-14400;-u6m71w.1;AST4",
    "America/St_Lucia=-14640,-14640,-14400;-15r0y1c.1 bh9s00.2;AST4",
    "America/St_Thomas=-15584,-14400;-uj7vz4.1;AST4",
    "America/St_Vincent=-14696,-14696,-14400;-15r0xzs.1 bh9s00.2;AST4",
    "America/Swift_Current=-25880,-21600d,-25200,-21600d,-21600d,-21600;-xkq9d4.2 6l1h14.1 a2vw0.2 " ++
      "c5jxg0.3 1tz5k0.4 2dvo0.2 asys0.1 8n180.2 a31g0.1 7x3w0.2 asys0.1 7x3w0.2 asys0.1 7x3w0.2 " ++
      "3yles0.1 9cyk0.2 s36s0.1 9cyk0.2 9d440.1 7x3w0.2 b5xg0.1 7k580.2 5j4lg0.5;CST6",
    "America/Tegucigalpa=-20932,-18000d,-21600;-pfzh6k.2 yho0ik.1 7k580.2 b5xg0.1 7k580.2 96x1g0.1 " ++
      "4qak0.2;CST6",
    "America/Thule=-16508,-10800d,-14400;-rvuj9g.2 12yzilg.1 9cyk0.2 9d440.1 9cyk0.2 9q2s0.1 ast80.2 " ++
      "7x9g0.1 ast80.2 7x9g0.1 ast80.2 8a840.1 afuk0.2 8a840.1 afuk0.2 8a840.1 afuk0.2 8a840.1 ast80.2 " ++
      "7x9g0.1 ast80.2 7x9g0.1 ast80.2 8a840.1 afuk0.2 8a840.1 afuk0.2 8a840.1 ast80.2 7x9g0.1 ast80.2 " ++
      "7x9g0.1 ast80.2 6udg0.1 c8nw0.2 6hes0.1 c8nw0.2 6hes0.1 c8nw0.2 6udg0.1 c8nw0.2 6hes0.1 c8nw0.2 " ++
      "6hes0.1 c8nw0.2 6hes0.1 c8nw0.2 6hes0.1 c8nw0.2 6hes0.1 c8nw0.2 6udg0.1 c8nw0.2 6hes0.1 c8nw0.2 " ++
      "6hes0.1 c8nw0.2 6hes0.1 c8nw0.2 6hes0.1 c8nw0.2 6udg0.1 c8nw0.2 6hes0.1 c8nw0.2 6hes0.1 c8nw0.2 " ++
      "6hes0.1 c8nw0.2 6hes0.1 c8nw0.2 6hes0.1 c8nw0.2 6udg0.1 c8nw0.2 6hes0.1 c8nw0.2 6hes0.1 c8nw0.2 " ++
      "6hes0.1 c8nw0.2 6hes0.1 c8nw0.2 6udg0.1 c8nw0.2 6hes0.1 c8nw0.2 6hes0.1 c8nw0.2 6hes0.1 c8nw0.2 " ++
      "6hes0.1 c8nw0.2 6hes0.1 c8nw0.2;AST4ADT,M3.2.0,M11.1.0",
    "America/Tijuana=-28084,-25200,-28800,-25200,-25200d,-25200d,-25200d,-28800;-p1u4k0.1 11juo0.2 " ++
      "1sm040.3 1si580.2 71s40.4 9cyk0.2 5iidg0.5 1q6700.6 4qzk0.2 18uw40.4 eluk0.2 oa5g0.4 7iak0.2 " ++
      "b6300.4 7x3w0.2 asys0.4 7x3w0.2 asw00.4 7x6o0.2 asw00.4 7x6o0.2 asw00.4 7x6o0.2 b5uo0.4 7x6o0.2 " ++
      "asw00.4 7x6o0.2 asw00.4 7x6o0.2 asw00.4 7x6o0.2 asw00.4 7x6o0.2 b5uo0.4 7k800.2 b5uo0.4 9d1c0.2 " ++
      "9d1c0.4 9d1c0.2 9d1c0.4 9d1c0.2 9d1c0.4 9q000.2 902o0.4 9q000.2 9d440.4 9cyk0.2 9d440.4 9cyk0.2 " ++
      "9d440.4 9cyk0.2 9d440.4 9cyk0.2 9d440.4 9px80.2 9d440.4 9cyk0.2 9d440.4 9cyk0.2 3lpg0.4 f4d80.2 " ++
      "64g40.4 clmk0.2 9d440.4 9px80.2 905g0.4 9px80.2 9d440.4 9cyk0.2 9d440.4 9cyk0.2 9d440.4 9cyk0.2 " ++
      "9d440.4 9cyk0.2 9d440.4 9px80.2 905g0.4 9px80.2 9d440.4 9cyk0.2 9d440.4 9cyk0.2 9d440.4 9cyk0.2 " ++
      "8a840.4 afuk0.2 8a840.4 ast80.2 7x9g0.4 ast80.2 7x9g0.4 ast80.2 8a840.4 afuk0.2 8a840.4 afuk0.2 " ++
      "8a840.4 ast80.2 7x9g0.4 ast80.2 7x9g0.4 ast80.2 8a840.4 afuk0.2 8a840.4 afuk0.2 8a840.4 afuk0.2 " ++
      "8a840.4 ast80.2 7x9g0.4 ast80.2 7x9g0.4 ast80.2 8a840.4 afuk0.2 8a840.4 afuk0.2 8a840.4 ast80.2 " ++
      "7x9g0.4 ast80.2 7x9g0.4 ast80.2 7x9g0.4 ast80.2 8a840.4 afuk0.2 8a840.4 afuk0.2 77c40.4 c8nw0.2 " ++
      "6hes0.4 c8nw0.2 6hes0.4 c8nw0.2 6hes0.4 c8nw0.2 6hes0.4 c8nw0.2 6hes0.4 c8nw0.2 6udg0.4 c8nw0.2 " ++
      "6hes0.4 c8nw0.2 6hes0.4 c8nw0.2 6hes0.4 c8nw0.2 6hes0.4 c8nw0.2 6udg0.4 c8nw0.2 6hes0.4 c8nw0.2 " ++
      "6hes0.4 c8nw0.2 6hes0.4 c8nw0.2 6hes0.4 c8nw0.2 6hes0.4 c8nw0.2 6udg0.4 c8nw0.2 6hes0.4 c8nw0.2 " ++
      "6hes0.4 c8nw0.2 6hes0.4 c8nw0.2 6hes0.4 c8nw0.2 6udg0.4 c8nw0.2 6hes0.4 c8nw0.2 6hes0.4 c8nw0.2 " ++
      "6hes0.4 c8nw0.2 6hes0.4 c8nw0.2 6hes0.4 c8nw0.2;PST8PDT,M3.2.0,M11.1.0",
    "America/Tortola=-15508,-14400;-uj7w18.1;AST4",
    "America/Vancouver Canada/Pacific=-29548,-25200d,-28800,-25200d,-25200d;-18vrvv8.2 hw36b8.1 " ++
      "a2vw0.2 c5jxg0.3 1tz2s0.4 2dyg0.2 asys0.1 7x3w0.2 asys0.1 7x3w0.2 asys0.1 7x3w0.2 asys0.1 " ++
      "7x3w0.2 b5xg0.1 7k580.2 b5xg0.1 7x3w0.2 asys0.1 7x3w0.2 asys0.1 7x3w0.2 asys0.1 7x3w0.2 asys0.1 " ++
      "7x3w0.2 b5xg0.1 7x3w0.2 asys0.1 7x3w0.2 asys0.1 7x3w0.2 asys0.1 7x3w0.2 asys0.1 7x3w0.2 b5xg0.1 " ++
      "7k580.2 b5xg0.1 9cyk0.2 9d440.1 9cyk0.2 9d440.1 9cyk0.2 9d440.1 9px80.2 905g0.1 9px80.2 9d440.1 " ++
      "9cyk0.2 9d440.1 9cyk0.2 9d440.1 9cyk0.2 9d440.1 9cyk0.2 9d440.1 9px80.2 9d440.1 9cyk0.2 9d440.1 " ++
      "9cyk0.2 9d440.1 9cyk0.2 9d440.1 9cyk0.2 9d440.1 9px80.2 905g0.1 9px80.2 9d440.1 9cyk0.2 9d440.1 " ++
      "9cyk0.2 9d440.1 9cyk0.2 9d440.1 9cyk0.2 9d440.1 9px80.2 905g0.1 9px80.2 9d440.1 9cyk0.2 9d440.1 " ++
      "9cyk0.2 9d440.1 9cyk0.2 8a840.1 afuk0.2 8a840.1 ast80.2 7x9g0.1 ast80.2 7x9g0.1 ast80.2 8a840.1 " ++
      "afuk0.2 8a840.1 afuk0.2 8a840.1 ast80.2 7x9g0.1 ast80.2 7x9g0.1 ast80.2 8a840.1 afuk0.2 8a840.1 " ++
      "afuk0.2 8a840.1 afuk0.2 8a840.1 ast80.2 7x9g0.1 ast80.2 7x9g0.1 ast80.2 8a840.1 afuk0.2 8a840.1 " ++
      "afuk0.2 8a840.1 ast80.2 7x9g0.1 ast80.2 7x9g0.1 ast80.2 6udg0.1 c8nw0.2 6hes0.1 c8nw0.2 6hes0.1 " ++
      "c8nw0.2 6udg0.1 c8nw0.2 6hes0.1 c8nw0.2 6hes0.1 c8nw0.2 6hes0.1 c8nw0.2 6hes0.1 c8nw0.2 6hes0.1 " ++
      "c8nw0.2 6udg0.1 c8nw0.2 6hes0.1 c8nw0.2 6hes0.1 c8nw0.2 6hes0.1 c8nw0.2 6hes0.1 c8nw0.2 6udg0.1 " ++
      "c8nw0.2 6hes0.1 c8nw0.2 6hes0.1 c8nw0.2 6hes0.1 c8nw0.2 6hes0.1 c8nw0.2 6hes0.1 c8nw0.2 6udg0.1 " ++
      "c8nw0.2 6hes0.1 c8nw0.2 6hes0.1 c8nw0.2 6hes0.1 c8nw0.2 6hes0.1 c8nw0.2 6udg0.1 c8nw0.2 6hes0.1 " ++
      "c8nw0.2 6hes0.1 c8nw0.2 6hes0.1 c8nw0.2 6hes0.1 c8nw0.2 6hes0.1 c8nw0.2;PST8PDT,M3.2.0,M11.1.0",
    "America/Whitehorse Canada/Yukon=-32412,-28800d,-32400,-28800d,-28800d,-25200d,-28800,-25200d,-25200;-1079tno.2 " ++
      "97l6vo.1 a2vw0.2 asys0.1 882c0.2 bmiwc0.3 1tz000.4 2e180.2 a7n3w0.5 9q000.2 64dc0.6 7e3pg0.7 " ++
      "9cyk0.6 9d440.7 9cyk0.6 9d440.7 9px80.6 905g0.7 9px80.6 9d440.7 9cyk0.6 9d440.7 9cyk0.6 9d440.7 " ++
      "9cyk0.6 8a840.7 afuk0.6 8a840.7 ast80.6 7x9g0.7 ast80.6 7x9g0.7 ast80.6 8a840.7 afuk0.6 8a840.7 " ++
      "afuk0.6 8a840.7 ast80.6 7x9g0.7 ast80.6 7x9g0.7 ast80.6 8a840.7 afuk0.6 8a840.7 afuk0.6 8a840.7 " ++
      "afuk0.6 8a840.7 ast80.6 7x9g0.7 ast80.6 7x9g0.7 ast80.6 8a840.7 afuk0.6 8a840.7 afuk0.6 8a840.7 " ++
      "ast80.6 7x9g0.7 ast80.6 7x9g0.7 ast80.6 6udg0.7 c8nw0.6 6hes0.7 c8nw0.6 6hes0.7 c8nw0.6 6udg0.7 " ++
      "c8nw0.6 6hes0.7 c8nw0.6 6hes0.7 c8nw0.6 6hes0.7 c8nw0.6 6hes0.7 c8nw0.6 6hes0.7 c8nw0.6 6udg0.7 " ++
      "c8nw0.6 6hes0.7 c8nw0.6 6hes0.7 c8nw0.6 6hes0.7 c8nw0.6 6hes0.7 c8ic0.8;MST7",
    "America/Yakutat=52865,-33535,-32400,-28800d,-28800d,-28800d,-28800d,-32400;-1hc7qjz.1 h4yv3i.2 " ++
      "ln720h.3 1tz000.4 2e180.2 cawis0.5 9cyk0.2 9d440.5 9cyk0.2 9d440.5 9px80.2 9d440.5 9cyk0.2 " ++
      "9d440.5 9cyk0.2 3lpg0.5 f4d80.2 64g40.5 clmk0.2 9d440.5 9px80.2 905g0.5 9px80.2 9d440.5 9cyk0.2 " ++
      "9d440.5 9cyk0.2 9d440.5 9cyk0.2 9d440.5 9cyk0.2 9d440.5 9px80.2 905g0.5 9px80.2 1lbw0.7 7rs80.6 " ++
      "9cyk0.7 9d440.6 9cyk0.7 9d440.6 9cyk0.7 8a840.6 afuk0.7 8a840.6 ast80.7 7x9g0.6 ast80.7 7x9g0.6 " ++
      "ast80.7 8a840.6 afuk0.7 8a840.6 afuk0.7 8a840.6 ast80.7 7x9g0.6 ast80.7 7x9g0.6 ast80.7 8a840.6 " ++
      "afuk0.7 8a840.6 afuk0.7 8a840.6 afuk0.7 8a840.6 ast80.7 7x9g0.6 ast80.7 7x9g0.6 ast80.7 8a840.6 " ++
      "afuk0.7 8a840.6 afuk0.7 8a840.6 ast80.7 7x9g0.6 ast80.7 7x9g0.6 ast80.7 6udg0.6 c8nw0.7 6hes0.6 " ++
      "c8nw0.7 6hes0.6 c8nw0.7 6udg0.6 c8nw0.7 6hes0.6 c8nw0.7 6hes0.6 c8nw0.7 6hes0.6 c8nw0.7 6hes0.6 " ++
      "c8nw0.7 6hes0.6 c8nw0.7 6udg0.6 c8nw0.7 6hes0.6 c8nw0.7 6hes0.6 c8nw0.7 6hes0.6 c8nw0.7 6hes0.6 " ++
      "c8nw0.7 6udg0.6 c8nw0.7 6hes0.6 c8nw0.7 6hes0.6 c8nw0.7 6hes0.6 c8nw0.7 6hes0.6 c8nw0.7 6hes0.6 " ++
      "c8nw0.7 6udg0.6 c8nw0.7 6hes0.6 c8nw0.7 6hes0.6 c8nw0.7 6hes0.6 c8nw0.7 6hes0.6 c8nw0.7 6udg0.6 " ++
      "c8nw0.7 6hes0.6 c8nw0.7 6hes0.6 c8nw0.7 6hes0.6 c8nw0.7 6hes0.6 c8nw0.7 6hes0.6 c8nw0.7;AKST9AKDT,M3.2.0,M11.1.0"]

end PortableSearch.Zone.Data
